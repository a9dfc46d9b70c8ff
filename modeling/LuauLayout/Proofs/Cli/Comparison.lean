/-
  LuauLayout.Proofs.Cli.Comparison

  Comparing a document with the file that it was laid out into.

  Laying out puts a line break behind the text, and comparing takes every line
  end off the end of the file, but none off the text. So the file is accepted
  exactly if the text has no line end at its end. A text has one if its last row
  has no cell, or if the name or the operator at its end brings one along.

    * `run_render_cases`       — laying out fails and leaves the files alone, or
      puts the text and a line break into the file.
    * `run_diff_of_ok`         — a comparison tells whether two texts are the
      same.
    * `run_diff_of_run_render` — what becomes of the comparison with a file that
      has been laid out into.
-/

import LuauLayout.Proofs.Cli.Session
import LuauLayout.Proofs.LineDiff.Distance

namespace LuauLayout
namespace Cli

variable {colours : Bool} {file path : String} {s left : Session}

/-- Laying out into a file ends with the exit code of a failure and leaves all files as they were, or
    it ends with another one and the text is in the file, and a line break behind it. -/
theorem run_render_cases {strict : Bool} {code : Nat}
    (hrun : ((Command.render file (some path) strict).run colours).runOn s = (left, code)) :
    (code = exitFailure ∧ left.store = s.store) ∨
      (code ≠ exitFailure ∧ ∃ r, s.store.reconstruction file = .ok r ∧
        left.store.read path = .ok (r.text ++ "\n")) := by
  rw [Command.runOn_run, Command.program, runOn_renderFile] at hrun
  cases hr : s.store.reconstruction file with
  | error e =>
    simp only [hr, Prod.mk.injEq] at hrun
    exact .inl ⟨hrun.2.symm, by rw [← hrun.1, Session.store_complain, Session.store_complain]⟩
  | ok r =>
    cases hw : s.store.write path (r.text ++ "\n") with
    | error fault =>
      simp only [hr, hw, Prod.mk.injEq] at hrun
      exact .inl ⟨hrun.2.symm, by rw [← hrun.1, Session.store_complain, Session.store_complain]⟩
    | ok store =>
      have hread : store.read path = .ok (r.text ++ "\n") := Store.read_of_write hw
      simp only [hr, hw] at hrun
      -- a refused text is in the file all the same
      cases ha : (Options.mk strict).accepts r.outcome with
      | false =>
        simp only [ha, Bool.false_eq_true, if_false, Prod.mk.injEq] at hrun
        refine .inr ⟨by rw [← hrun.2]; decide, r, rfl, ?_⟩
        rw [← hrun.1, Session.store_complain, Session.store_withStore]
        exact hread
      | true =>
        simp only [ha, if_true, Prod.mk.injEq] at hrun
        refine .inr ⟨by rw [← hrun.2]; decide, r, rfl, ?_⟩
        rw [← hrun.1, Session.store_withStore]
        exact hread

/-- A comparison of two texts that are there prints that they match exactly if they are the same,
    line ends at the end of the file aside. -/
theorem run_diff_of_ok {r : Reconstruction} {text : String}
    (hr : s.store.reconstruction file = .ok r) (ht : s.store.read path = .ok text) :
    ((Command.diff file path).run colours).runOn s =
      let warned := s.complain (s.store.warnings colours file)
      if Text.trimLineEnd text = r.text then
        (warned.print ("reconstruction matches " ++ path ++ "\n"), exitOk)
      else (warned.print (LineDiff.print colours
        (LineDiff.groups (Text.trimLineEnd text) r.text)), exitFailure) := by
  rw [Command.runOn_run, Command.program, runOn_diffFile]
  simp only [hr, ht, LineDiff.distance_eq_zero_iff]
  by_cases hsame : Text.trimLineEnd text = r.text
  · simp only [if_pos hsame]
  · simp only [if_neg hsame]

/-- After a document has been laid out into a file, and with both files as they are then, comparing
    the two succeeds exactly if the text has no line end at its end. Otherwise it fails, and shows
    how the text differs from itself without them. -/
theorem run_diff_of_run_render {colours' strict : Bool} {code : Nat} {later : Session}
    (hrun : ((Command.render file (some path) strict).run colours).runOn s = (left, code))
    (hcode : code ≠ exitFailure) (hfile : later.store.read file = s.store.read file)
    (hpath : later.store.read path = left.store.read path) :
    ∃ r, s.store.reconstruction file = .ok r ∧ left.store.read path = .ok (r.text ++ "\n") ∧
      ((Command.diff file path).run colours').runOn later =
        let warned := later.complain (s.store.warnings colours' file)
        if Text.endsLine r.text = false then
          (warned.print ("reconstruction matches " ++ path ++ "\n"), exitOk)
        else (warned.print (LineDiff.print colours'
          (LineDiff.groups (Text.trimLineEnd r.text) r.text)), exitFailure) := by
  obtain ⟨hfailed, -⟩ | ⟨-, r, hr, hread⟩ := run_render_cases hrun
  · exact absurd hfailed hcode
  refine ⟨r, hr, hread, ?_⟩
  have hlater : later.store.reconstruction file = .ok r := (Store.reconstruction_congr hfile).trans hr
  -- the break that laying out has added is trimmed along with those of the text itself
  rw [run_diff_of_ok hlater (hpath.trans hread), Store.warnings_congr hfile,
    Text.trimLineEnd_append_break]
  simp only [Text.trimLineEnd_eq_self_iff]

/-- The text of a document whose one statement is a name. -/
def nameDump (location name : String) : String :=
  "\x7b\"type\":\"AstStatBlock\",\"location\":\"" ++ location ++ "\",\"body\":["
    ++ "\x7b\"type\":\"AstExprGlobal\",\"location\":\"" ++ location ++ "\",\"global\":\"" ++ name
    ++ "\"\x7d]\x7d"

namespace Session

/-- A session with a document. -/
def ofDump (dump : String) : Session := .ofStore ⟨[(["d.json"], some dump)]⟩

/-- A session with a document, and a file that it may have been laid out into. -/
def ofDumpAndText (dump text : String) : Session :=
  .ofStore ⟨[(["f.luau"], some text), (["d.json"], some dump)]⟩

end Session

/-- A name is laid out, and the file is accepted by a comparison later on. -/
theorem run_diff_of_run_render_name :
    ((Command.render "d.json" (some "f.luau") true).run false).runOn
        (.ofDump (nameDump "0,0 - 0,1" "x")) =
      (.ofDumpAndText (nameDump "0,0 - 0,1" "x") "x\n", exitOk) ∧
    let compared := ((Command.diff "d.json" "f.luau").run true).runOn
      (.ofDumpAndText (nameDump "0,0 - 0,1" "x") "x\n")
    compared.1.output = "reconstruction matches f.luau\n" ∧ compared.2 = exitOk := by
  have hrun : ((Command.render "d.json" (some "f.luau") true).run false).runOn
      (.ofDump (nameDump "0,0 - 0,1" "x")) =
      (.ofDumpAndText (nameDump "0,0 - 0,1" "x") "x\n", exitOk) := by decide +kernel
  have hbefore : (Session.ofDump (nameDump "0,0 - 0,1" "x")).store.read "d.json" =
      .ok (nameDump "0,0 - 0,1" "x") := eq_ok_of_toOption (by decide +kernel)
  have hafter : (Session.ofDumpAndText (nameDump "0,0 - 0,1" "x") "x\n").store.read "d.json" =
      .ok (nameDump "0,0 - 0,1" "x") := eq_ok_of_toOption (by decide +kernel)
  have hpath : (Session.ofDumpAndText (nameDump "0,0 - 0,1" "x") "x\n").store.read "f.luau" =
      .ok "x\n" := eq_ok_of_toOption (by decide +kernel)
  obtain ⟨r, -, hread, hdiff⟩ := run_diff_of_run_render hrun (by decide) (hafter.trans hbefore.symm) rfl
  have htext : r.text = "x" := by
    have h : "x" ++ "\n" = r.text ++ "\n" := Except.ok.inj (hpath.symm.trans hread)
    exact (String.append_left_inj "\n").mp h.symm
  have hends : Text.endsLine "x" = false := by decide
  rw [htext, if_pos hends] at hdiff
  rw [hdiff]
  exact ⟨hrun, rfl, rfl⟩

/-- An empty name in the second row leaves that row without a cell. The text ends with the line
    break before it, and the comparison finds a difference right after laying out. -/
theorem exists_render_diff_differ : ∃ dump,
    ((Command.render "d.json" (some "f.luau") true).run false).runOn (.ofDump dump) =
      (.ofDumpAndText dump "\n\n", exitOk) ∧
    ((Command.diff "d.json" "f.luau").run false).runOn (.ofDumpAndText dump "\n\n") =
      ((Session.ofDumpAndText dump "\n\n").print "+\n", exitFailure) :=
  ⟨nameDump "1,0 - 1,0" "", by decide +kernel⟩

end Cli
end LuauLayout
