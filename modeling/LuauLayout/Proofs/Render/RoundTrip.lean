/-
  LuauLayout.Proofs.Render.RoundTrip

  The tree of a layout is laid out as that layout.

  Half of the tokens go where their locations say, the other half is appended to
  whatever row is the last. Both come out right because the tokens are written
  in the order of the text: before each of them the buffer shows all the text so
  far, the row being written is its last, and the line on it has a character
  whenever something is appended.

    * `Render.Lays`  — a rendering takes a buffer from one text to another.
    * `lays_dispatchAt` — along a line: an expression lays out what it spells.
    * `lays_walkNodes`  — along the rows: so do statements.
    * `reconstruct_of_laid` — the document.
-/

import LuauLayout.Proofs.Node.Layout
import LuauLayout.Proofs.Render.Completeness

namespace LuauLayout

/-! ## Every token leaves a character -/

namespace Node

theorem Spelled.ne_nil {row : Nat} {n : Node} {line after : Line}
    (h : Spelled row n line after) : after ≠ [] := by
  induction n using Node.induct generalizing line with
  | atom l a =>
    cases h with
    | atom ha _ => exact Line.put_ne_nil _ _ ha.oneLine_source
  | indexName l base name nl op ih =>
    cases h with
    | member _ hname _ => exact Line.put_ne_nil _ _ hname
    | placedMember _ hname _ _ => exact Line.put_ne_nil _ _ hname
  | group l e ih =>
    cases h with
    | group _ _ => exact Line.put_ne_nil _ _ (by decide)
  | call l callee args ihc iha =>
    cases h with
    | call _ _ _ => exact Line.put_ne_nil _ _ (by decide)
  | unary l op e ih =>
    cases h with
    | unary _ _ he => exact ih he
  | binary l op left right ihl ihr =>
    cases h with
    | binary _ _ hr => exact ihr hr
  -- statements and unmodelled nodes are no part of a line
  | _ => cases h

theorem Separated.ne_nil {row : Nat} {started : Bool} {ns : List Node} {line after : Line}
    (h : Separated row started ns line after) (hline : line ≠ [] ∨ ns ≠ []) : after ≠ [] := by
  induction ns generalizing started line with
  | nil =>
    cases h
    exact hline.resolve_right (fun hne => hne rfl)
  | cons n rest ih =>
    cases h with
    | cons hn hrest => exact ih hrest (.inl hn.ne_nil)

theorem Valued.ne_nil {row : Nat} {values : Option (List Node)} {line after : Line}
    (h : Valued row values line after) (hline : line ≠ []) : after ≠ [] := by
  cases h with
  | none => exact hline
  | empty => exact hline
  | some h => exact h.ne_nil (.inr (List.cons_ne_nil _ _))

theorem LineOf.ne_nil {row : Nat} {n : Node} {line : Line} (h : LineOf row n line) :
    line ≠ [] := by
  cases h with
  | token ha _ => exact Line.put_ne_nil _ _ ha.oneLine_source
  | localDecl _ ht hv =>
    exact hv.ne_nil (ht.ne_nil (.inl (Line.put_ne_nil _ _ (by decide))))
  | assign ht hv => exact hv.ne_nil (ht.ne_nil (.inr (List.cons_ne_nil _ _)))
  | ret _ hv => exact hv.ne_nil (.inl (Line.put_ne_nil _ _ (by decide)))
  | exprStat he => exact he.ne_nil

/-- The last line of a text has a character. -/
theorem Laid.getLast?_ne {ns : List Node} {above ls : List Line} (h : Laid ns above ls)
    (habove : above.getLast? ≠ some []) : ls.getLast? ≠ some [] := by
  induction h with
  | nil => exact habove
  | line hline _ ih =>
    apply ih
    rw [Line.under, List.getLast?_concat]
    exact fun heq => hline.ne_nil (Option.some.inj heq)
  | block _ _ _ _ ih =>
    apply ih
    rw [Line.under, List.getLast?_concat]
    exact fun heq => Line.put_ne_nil _ _ (by decide) (Option.some.inj heq)

/-- What can be spelled has a form, and so a renderer. -/
theorem Spelled.has_kind {row : Nat} {n : Node} {line after : Line}
    (h : Spelled row n line after) : Registry.standard.has n.kind = true := by
  have hform : ∃ f, n.form? = some f := by
    cases h <;> exact ⟨_, rfl⟩
  obtain ⟨f, hf⟩ := hform
  rw [Registry.has, kind_of_form? hf, Registry.get?_standard_tag]
  rfl

end Node

/-! ## From one text to another -/

namespace Render

variable {α β : Type}

/-- A rendering ends with a value, reports nothing, and takes a buffer that shows one text to one
    that shows another. -/
structure Lays (m : Render α) (a : α) (before after : List Line) : Prop where
  result : m.result = .ok a
  quiet : reports m.actions = []
  shows : ∀ b : Buffer, b.Shows before → (b.performAll m.actions).Shows after

namespace Lays

variable {above ls : List Line} {line : Line}

theorem pure (a : α) (ls : List Line) : Lays (Pure.pure a) a ls ls := ⟨rfl, rfl, fun _ h => h⟩

theorem bind {m : Render α} {f : α → Render β} {a : α} {c : β} {before mid after : List Line}
    (hm : Lays m a before mid) (hf : Lays (f a) c mid after) : Lays (m >>= f) c before after := by
  rw [bind_of_ok hm.result]
  refine ⟨hf.result, ?_, fun b hb => ?_⟩
  · show reports (m.actions ++ (f a).actions) = []
    rw [reports_append, hm.quiet, hf.quiet]
    rfl
  · show (b.performAll (m.actions ++ (f a).actions)).Shows after
    rw [Buffer.performAll_append]
    exact hf.shows _ (hm.shows b hb)

theorem write {text : String} (ht : OneLine text) (gap : Nat) :
    Lays (Render.write text ⟨above.length, line.length + gap⟩) ()
      (above ++ [line]) (above ++ [line.put gap text]) :=
  ⟨rfl, rfl, fun _ hb => hb.write ht gap⟩

theorem append {text : String} (ht : OneLine text) (hline : line ≠ []) :
    Lays (Render.append text) () (above ++ [line]) (above ++ [line.put 0 text]) :=
  ⟨rfl, rfl, fun _ hb => hb.append hline ht⟩

theorem span {l : Location} {s : Span} (hl : l.read = .ok s) (ls : List Line) :
    Lays (ofExcept l.span) s ls ls := by
  refine ⟨?_, rfl, fun _ hb => hb⟩
  show l.span = .ok s
  rw [Location.span, hl]
  rfl

theorem writeAtStart {l : Location} {text : String} {gap : Nat} {stop : Coordinate}
    (ht : OneLine text) (hl : l.read = .ok ⟨⟨above.length, line.length + gap⟩, stop⟩) :
    Lays (Render.writeAtStart l text) () (above ++ [line]) (above ++ [line.put gap text]) := by
  have hstart : Lays (ofExcept l.start) ⟨above.length, line.length + gap⟩
      (above ++ [line]) (above ++ [line]) := by
    refine ⟨?_, rfl, fun _ hb => hb⟩
    show l.start = _
    rw [Location.start, Location.span, hl]
    rfl
  exact hstart.bind (write ht gap)

/-- A row below the text so far. -/
theorem under {m : Render α} {a : α} {skip : Nat} {after : List Line}
    (h : Lays m a (Line.under above skip []) after) : Lays m a above after := by
  refine ⟨h.result, h.quiet, fun b hb => h.shows b ?_⟩
  -- the empty rows and the row of `after` need not be there before something is written
  have hbelow := hb.below (skip + 1)
  rw [List.replicate_succ', ← List.append_assoc] at hbelow
  exact hbelow

/-- The first token of a row. -/
theorem writeAtStart_nil {l : Location} {text : String} {gap : Nat} {stop : Coordinate}
    (ht : OneLine text) (hl : l.read = .ok ⟨⟨above.length, gap⟩, stop⟩) :
    Lays (Render.writeAtStart l text) () (above ++ [[]]) (above ++ [Line.put [] gap text]) := by
  have hgap : l.read = .ok ⟨⟨above.length, ([] : Line).length + gap⟩, stop⟩ := by
    rw [List.length_nil, Nat.zero_add]
    exact hl
  exact writeAtStart ht hgap

/-- A token that has its row to itself. -/
theorem write_under {text : String} (ht : OneLine text) (above : List Line) (skip gap : Nat) :
    Lays (Render.write text ⟨above.length + skip, gap⟩) () above
      (Line.under above skip (Line.put [] gap text)) := by
  let rows := above ++ List.replicate skip []
  have hrow : rows.length = above.length + skip := by
    rw [List.length_append, List.length_replicate]
  have hwrite : Lays (Render.write text ⟨rows.length, ([] : Line).length + gap⟩) ()
      (rows ++ [[]]) (rows ++ [Line.put [] gap text]) := write ht gap
  rw [hrow, List.length_nil, Nat.zero_add] at hwrite
  exact under hwrite

theorem of_renderer {p : Position} {n : Node} {r : Renderer} {before after : List Line}
    (hr : n.renderer? p = some r) (h : Lays (renderWith .standard r n) () before after) :
    Lays (dispatchAt .standard p n) .rendered before after := by
  have hg : Registry.standard.get? (n.tagAt p) = some r := by
    rw [Registry.get?_standard_tagAt, hr]
  rw [dispatchAt_of_some hg]
  exact h.bind (pure _ _)

end Lays

/-! ## Along a line -/

variable {above : List Line}

/-- A comma is appended to a line that has an element already. -/
theorem lays_listNodes {ns : List Node} {started : Bool} {line after : Line}
    (ih : ∀ n ∈ ns, ∀ line after, Node.Spelled above.length n line after →
      Lays (dispatchAt .standard .operand n) .rendered (above ++ [line]) (above ++ [after]))
    (h : Node.Separated above.length started ns line after) (hline : started = true → line ≠ []) :
    Lays (listNodes .standard "," started ns) .rendered (above ++ [line]) (above ++ [after]) := by
  -- what is carried along the list: once it has started, the line has a character
  induction ns generalizing started line with
  | nil =>
    cases h
    rw [listNodes]
    exact .pure _ _
  | cons n rest ihrest =>
    obtain ⟨ihn, ihns⟩ := List.forall_mem_cons.mp ih
    cases h with
    | cons hn hrest =>
      have hsep : Lays (appendIf started ",") () (above ++ [line])
          (above ++ [if started then line.put 0 "," else line]) := by
        cases started with
        | false => exact .pure _ _
        | true => exact .append (by decide) (hline rfl)
      rw [listNodes_cons_of_has "," started rest hn.has_kind]
      exact hsep.bind ((ihn _ _ hn).bind (ihrest ihns hrest fun _ => hn.ne_nil))

/-- What a line is continued by, the renderers of expressions write. -/
theorem lays_dispatchAt {n : Node} {line after : Line} (h : Node.Spelled above.length n line after) :
    Lays (dispatchAt .standard .operand n) .rendered (above ++ [line]) (above ++ [after]) := by
  induction n using Node.induct generalizing line after with
  | atom l a =>
    cases h with
    | atom ha hl =>
      refine .of_renderer rfl ?_
      rw [renderWith_atom]
      exact .writeAtStart ha.oneLine_source hl
  | indexName l base name nl op ih =>
    refine .of_renderer rfl ?_
    rw [renderWith_indexName]
    cases h with
    | member hop hname hbase =>
      -- both the `.` and the name go behind what the base has left on the line
      refine (ih hbase).bind ((Lays.append hop hbase.ne_nil).bind ?_)
      exact .append hname (Line.put_ne_nil _ _ hop)
    | placedMember hop hname hbase hnl =>
      refine (ih hbase).bind ((Lays.append hop hbase.ne_nil).bind ?_)
      exact .writeAtStart hname hnl
  | group l e ih =>
    cases h with
    | group hl he =>
      refine .of_renderer rfl ?_
      rw [renderWith_group]
      refine (Lays.span hl _).bind ((Lays.write (by decide) _).bind ((ih he).bind ?_))
      exact .write (by decide) _
  | call l callee args ihc iha =>
    cases h with
    | call hl hcallee hargs =>
      refine .of_renderer rfl ?_
      rw [renderWith_call]
      have hopen : OneLine "(" := by decide
      have hlist := lays_listNodes (fun n hn line after => iha n hn) hargs Bool.false_ne_true.elim
      refine (Lays.span hl _).bind ((ihc hcallee).bind ?_)
      refine (Lays.append hopen hcallee.ne_nil).bind (hlist.bind ?_)
      exact .write (by decide) _
  | unary l op e ih =>
    cases h with
    | unary hop hl he =>
      refine .of_renderer rfl ?_
      rw [renderWith_unary]
      have hsymbol := Lays.writeAtStart (Operator.oneLine_unarySymbol hop) hl
      exact hsymbol.bind ((ih he).bind (.pure _ _))
  | binary l op left right ihl ihr =>
    cases h with
    | binary hop hleft hright =>
      refine .of_renderer rfl ?_
      rw [renderWith_binary]
      have hsymbol := Operator.oneLine_spaced hop
      refine (ihl hleft).bind ((Lays.append hsymbol hleft.ne_nil).bind ?_)
      exact (ihr hright).bind (.pure _ _)
  | _ => cases h

/-- Expressions with commas between them. -/
theorem lays_separated {ns : List Node} {line after : Line}
    (h : Node.Separated above.length false ns line after) :
    Lays (listNodes .standard "," false ns) .rendered (above ++ [line]) (above ++ [after]) :=
  lays_listNodes (fun _ _ _ _ hn => lays_dispatchAt hn) h Bool.false_ne_true.elim

theorem lays_assignValues {values : Option (List Node)} {line after : Line} (hline : line ≠ [])
    (h : Node.Valued above.length values line after) :
    Lays (assignValues .standard .rendered values) .rendered (above ++ [line]) (above ++ [after]) := by
  cases h with
  | none =>
    rw [assignValues]
    exact .pure _ _
  | empty =>
    -- without a first value there is no ` = ` either
    rw [assignValues_some, listNodes]
    exact (Lays.pure _ _).bind ((Lays.pure _ _).bind (.pure _ _))
  | some hvalues =>
    have hlist := lays_separated hvalues
    cases hvalues with
    | cons hv _ =>
      rw [assignValues_some, List.head?_cons, Option.any_some, hv.has_kind]
      have heq : OneLine " = " := by decide
      exact (Lays.append heq hline).bind (hlist.bind (.pure _ _))

/-! ## Along the rows -/

/-- A statement other than a block writes its line. -/
theorem lays_statement {n : Node} {line : Line} (h : Node.LineOf above.length n line) :
    Lays (dispatchAt .standard .statement n) .rendered (above ++ [[]]) (above ++ [line]) := by
  cases h with
  | @token l a gap stop ha hl =>
    refine .of_renderer rfl ?_
    rw [renderWith_atom]
    exact .writeAtStart_nil ha.oneLine_source hl
  | localDecl hl htargets hvalues =>
    refine .of_renderer rfl ?_
    rw [renderWith_localDecl]
    have hlocal : OneLine "local" := by decide
    -- the sign is appended to the last row, so something has to stand in it already
    have hmid := htargets.ne_nil (.inl (Line.put_ne_nil _ _ hlocal))
    refine (Lays.writeAtStart_nil hlocal hl).bind ((lays_separated htargets).bind ?_)
    exact (lays_assignValues hmid hvalues).bind (.pure _ _)
  | assign htargets hvalues =>
    refine .of_renderer rfl ?_
    rw [renderWith_assign]
    have hmid := htargets.ne_nil (.inr (List.cons_ne_nil _ _))
    exact (lays_separated htargets).bind ((lays_assignValues hmid hvalues).bind (.pure _ _))
  | ret hl hvalues =>
    refine .of_renderer rfl ?_
    rw [renderWith_ret]
    have hreturn : OneLine "return" := by decide
    exact (Lays.writeAtStart_nil hreturn hl).bind ((lays_separated hvalues).bind (.pure _ _))
  | exprStat he =>
    refine .of_renderer rfl ?_
    rw [renderWith_exprStat]
    exact (lays_dispatchAt he).bind (.pure _ _)

theorem lays_statement_under {n : Node} {skip : Nat} {line : Line}
    (h : Node.LineOf (above.length + skip) n line) :
    Lays (dispatchAt .standard .statement n) .rendered above (Line.under above skip line) := by
  have hrow : (above ++ List.replicate skip []).length = above.length + skip := by
    rw [List.length_append, List.length_replicate]
  rw [← hrow] at h
  exact .under (lays_statement h)

/-- Statements lay out the text that they continue. -/
theorem lays_walkNodes {ns : List Node} {above ls : List Line} (h : Node.Laid ns above ls) :
    Lays (walkNodes .standard ns) .rendered above ls := by
  induction h with
  | nil =>
    rw [walkNodes]
    exact .pure _ _
  | line hline _ ih =>
    rw [walkNodes_cons]
    exact (lays_statement_under hline).bind ih
  | @block l body rest above inner ls skip gap skip' gap' hl _ _ ihbody ih =>
    -- the body goes below the row of `do`, and `end` below the last row of the body
    have hdo : OneLine "do" := by decide
    have hend : OneLine "end" := by decide
    have hblock : Lays (renderWith .standard .doBlock (.block l true body)) () above
        (Line.under inner skip' (Line.put [] gap' "end")) := by
      rw [renderWith_doBlock]
      refine (Lays.span hl _).bind ((Lays.write_under hdo above skip gap).bind ?_)
      exact ihbody.bind (.write_under hend inner skip' gap')
    rw [walkNodes_cons]
    exact (Lays.of_renderer rfl hblock).bind ih

end Render

/-! ## Documents -/

/-- A document whose statements have a layout is laid out as it, whole and without a report. -/
theorem reconstruct_of_laid {b : Block} {ls : List Line} (h : Node.Laid b.body [] ls) :
    reconstruct .standard b = ([], .ok ⟨"\n".intercalate (ls.map String.ofList), .complete⟩) := by
  have hlays := Render.lays_walkNodes h
  have hshows := hlays.shows .empty .empty
  -- no row is missing at the end of the buffer, because the last line is not empty
  have hlast : ls.getLast? ≠ some [] := h.getLast?_ne (Option.some_ne_none _).symm
  refine reconstruct_eq_ok_iff.mpr ⟨hlays.quiet.symm, ⟨_, hlays.result⟩, ?_⟩
  show _ = (⟨(Buffer.empty.performAll (Render.walkNodes .standard b.body).actions).render, _⟩ :
    Reconstruction)
  rw [hshows.render hlast]
  rfl

/-- A declaration, an empty row, a block with a call in it, and constants: some tokens have places,
    the punctuation and the member have none. -/
theorem reconstruct_of_laid_call :
    let member : Node := .indexName ⟨""⟩ (.atom ⟨"0,11 - 0,12"⟩ (.global "a")) "b" none none
    let declaration : Node := .localDecl ⟨"0,0 - 0,15"⟩ [.atom ⟨"0,6 - 0,7"⟩ (.binding "x" none)]
      (some [.group ⟨"0,10 - 0,15"⟩ member])
    let negation : Node := .unary ⟨"3,4 - 3,9"⟩ "Not" (.atom ⟨"3,8 - 3,9"⟩ (.global "x"))
    let call : Node := .call ⟨"3,2 - 3,14"⟩ (.atom ⟨"3,2 - 3,3"⟩ (.global "f"))
      [negation, .atom ⟨"3,10 - 3,13"⟩ .nil]
    let body : List Node := [.exprStat ⟨""⟩ call, .atom ⟨"4,2 - 4,7"⟩ .breakStat,
      .atom ⟨"5,4 - 5,12"⟩ .continueStat]
    let constants : List Node := [.atom ⟨"7,7 - 7,10"⟩ (.text "s"),
      .atom ⟨"7,11 - 7,15"⟩ (.bool true), .atom ⟨"7,16 - 7,21"⟩ (.bool false),
      .atom ⟨"7,22 - 7,25"⟩ (.number ⟨0x3fe0000000000000⟩), .atom ⟨"7,26 - 7,29"⟩ .varargs]
    let b : Block := ⟨⟨"0,0 - 8,0"⟩, false,
      [declaration, .block ⟨"2,0 - 6,0"⟩ true body, .ret ⟨"7,0 - 7,29"⟩ constants]⟩
    let ls := ["local x = (a.b)", "", "do", "  f(not x,nil)", "  break", "    continue", "end",
      "return \"s\",true,false,0.5,..."]
    Node.Laid b.body [] (ls.map String.toList) ∧
      reconstruct .standard b = ([], .ok ⟨"\n".intercalate ls, .complete⟩) := by
  intro member declaration negation call body constants b ls
  let first : Line := Line.put (Line.put (Line.put [] 0 "local") 1 "x") 0 " = "
  let group : Line := (((first.put 0 "(").put 0 "a").put 0 ".").put 0 "b"
  have hdeclaration : Node.LineOf 0 declaration (group.put 0 ")") := by
    have hx : Node.Spelled 0 (.atom ⟨"0,6 - 0,7"⟩ (.binding "x" none)) (Line.put [] 0 "local")
        (Line.put (Line.put [] 0 "local") 1 "x") :=
      @Node.Spelled.atom 0 _ _ _ 1 ⟨0, 7⟩ (by decide) (by decide +kernel)
    have ha : Node.Spelled 0 (.atom ⟨"0,11 - 0,12"⟩ (.global "a")) (first.put 0 "(")
        ((first.put 0 "(").put 0 "a") :=
      @Node.Spelled.atom 0 _ _ _ 0 ⟨0, 12⟩ (by decide) (by decide +kernel)
    have hmember : Node.Spelled 0 member (first.put 0 "(") group :=
      .member (by decide) (by decide) ha
    have hgroup : Node.Spelled 0 (.group ⟨"0,10 - 0,15"⟩ member) first (group.put 0 ")") :=
      @Node.Spelled.group 0 _ _ _ _ 0 0 (by decide +kernel) hmember
    have hvalues : Node.Separated 0 false [.group ⟨"0,10 - 0,15"⟩ member] first (group.put 0 ")") :=
      .cons hgroup .nil
    exact @Node.LineOf.localDecl 0 _ _ _ 0 ⟨0, 15⟩ _ _ (by decide +kernel) (.cons hx .nil)
      (.some hvalues)
  let callee : Line := Line.put [] 2 "f"
  let args : Line := ((((callee.put 0 "(").put 0 "not ").put 0 "x").put 0 ",").put 0 "nil"
  have hcall : Node.LineOf 3 (.exprStat ⟨""⟩ call) (args.put 0 ")") := by
    have hf : Node.Spelled 3 (.atom ⟨"3,2 - 3,3"⟩ (.global "f")) [] callee :=
      @Node.Spelled.atom 3 _ _ _ 2 ⟨3, 3⟩ (by decide) (by decide +kernel)
    have hx : Node.Spelled 3 (.atom ⟨"3,8 - 3,9"⟩ (.global "x"))
        ((callee.put 0 "(").put 0 "not ") (((callee.put 0 "(").put 0 "not ").put 0 "x") :=
      @Node.Spelled.atom 3 _ _ _ 0 ⟨3, 9⟩ (by decide) (by decide +kernel)
    have hnot : Node.Spelled 3 negation (callee.put 0 "(")
        (((callee.put 0 "(").put 0 "not ").put 0 "x") :=
      @Node.Spelled.unary 3 _ _ _ _ _ 0 ⟨3, 9⟩ (by decide) (by decide +kernel) hx
    have hnil : Node.Spelled 3 (.atom ⟨"3,10 - 3,13"⟩ .nil)
        ((((callee.put 0 "(").put 0 "not ").put 0 "x").put 0 ",") args :=
      @Node.Spelled.atom 3 _ _ _ 0 ⟨3, 13⟩ (by decide) (by decide +kernel)
    have hargs : Node.Separated 3 false [negation, .atom ⟨"3,10 - 3,13"⟩ .nil] (callee.put 0 "(")
        args := .cons hnot (.cons hnil .nil)
    exact .exprStat (@Node.Spelled.call 3 _ _ _ _ _ _ 0 ⟨3, 2⟩ (by decide +kernel) hf hargs)
  let values : Line := (((((((((Line.put [] 0 "return").put 1 "\"s\"").put 0 ",").put 0 "true").put 0
    ",").put 0 "false").put 0 ",").put 0 (Atom.number ⟨0x3fe0000000000000⟩).source).put 0 ",").put 0
      "..."
  have hreturn : Node.LineOf 7 (.ret ⟨"7,0 - 7,29"⟩ constants) values := by
    refine @Node.LineOf.ret 7 _ _ 0 ⟨7, 29⟩ _ (by decide +kernel) ?_
    exact .cons (@Node.Spelled.atom 7 _ _ _ 1 ⟨7, 10⟩ (by decide) (by decide +kernel)) <|
      .cons (@Node.Spelled.atom 7 _ _ _ 0 ⟨7, 15⟩ trivial (by decide +kernel)) <|
      .cons (@Node.Spelled.atom 7 _ _ _ 0 ⟨7, 21⟩ trivial (by decide +kernel)) <|
      .cons (@Node.Spelled.atom 7 _ _ _ 0 ⟨7, 25⟩ trivial (by decide +kernel)) <|
      .cons (@Node.Spelled.atom 7 _ _ _ 0 ⟨7, 29⟩ trivial (by decide +kernel)) .nil
  let opened : List Line := Line.under (Line.under [] 0 (group.put 0 ")")) 1 (Line.put [] 0 "do")
  let inner : List Line := Line.under (Line.under (Line.under opened 0 (args.put 0 ")")) 0
    (Line.put [] 2 "break")) 0 (Line.put [] 4 "continue")
  have hbody : Node.Laid body opened inner := by
    have hbreak : Node.LineOf 4 (.atom ⟨"4,2 - 4,7"⟩ .breakStat) (Line.put [] 2 "break") :=
      @Node.LineOf.token 4 _ _ 2 ⟨4, 7⟩ trivial (by decide +kernel)
    have hcontinue : Node.LineOf 5 (.atom ⟨"5,4 - 5,12"⟩ .continueStat)
        (Line.put [] 4 "continue") :=
      @Node.LineOf.token 5 _ _ 4 ⟨5, 12⟩ trivial (by decide +kernel)
    exact @Node.Laid.line _ _ _ _ 0 _ hcall <| @Node.Laid.line _ _ _ _ 0 _ hbreak <|
      @Node.Laid.line _ _ _ _ 0 _ hcontinue .nil
  have hlaid : Node.Laid b.body [] (ls.map String.toList) := by
    have hls : Line.under (Line.under inner 0 (Line.put [] 0 "end")) 0 values
        = ls.map String.toList := by decide +kernel
    rw [← hls]
    refine @Node.Laid.line _ _ _ _ 0 _ hdeclaration ?_
    refine @Node.Laid.block _ _ _ _ inner _ 1 0 0 0 (by decide +kernel) hbody ?_
    exact @Node.Laid.line _ _ _ _ 0 _ hreturn .nil
  refine ⟨hlaid, ?_⟩
  rw [reconstruct_of_laid hlaid]
  rfl

end LuauLayout
