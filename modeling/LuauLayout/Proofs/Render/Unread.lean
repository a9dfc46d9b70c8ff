/-
  LuauLayout.Proofs.Render.Unread

  Data that is not read has no influence.

  A location is read late and only in part: a token needs its start, a call only
  the column of its closing parenthesis, an assignment nothing at all. Types of
  variables are never read. Two trees that differ in nothing else are laid out
  alike, whatever is wrong with the locations that are not read. Where a
  location that is read names no span, its text goes into the failure, so there
  the two have to be the same.

    * `Atom.EqUpToUnread`, `Node.EqUpToUnread` — trees that differ only in what
      is not read of them.
    * `alike_of_eqUpToUnread` — the induction along the nodes.
    * `reconstruct_eq_of_eqUpToUnread` — the same of documents.
-/

import LuauLayout.Proofs.Render.Congruence

namespace LuauLayout

/-! ## Trees that differ only in what is not read -/

/-- Two tokens that differ at most in the type of a variable, or in where the variable was declared
    to which a name refers. -/
inductive Atom.EqUpToUnread : Atom → Atom → Prop where
  | same (a : Atom) : EqUpToUnread a a
  | binding (name : String) (declaredType declaredType' : Option Json) :
      EqUpToUnread (.binding name declaredType) (.binding name declaredType')
  | localRef (name : String) (l l' : Location) (declaredType declaredType' : Option Json) :
      EqUpToUnread (.localRef ⟨l, name, declaredType⟩) (.localRef ⟨l', name, declaredType'⟩)

namespace Atom.EqUpToUnread

variable {a a' : Atom}

theorem form_eq (h : a.EqUpToUnread a') : a.form = a'.form := by
  cases h <;> rfl

theorem source_eq (h : a.EqUpToUnread a') : a.source = a'.source := by
  cases h <;> rfl

end Atom.EqUpToUnread

/-- Two nodes at a position that differ only in what is not read of them there. The location of an
    assignment, an expression statement, a member, a binary operation or a block that is no
    statement is arbitrary in both; any other may be another one that agrees in what is read. -/
inductive Node.EqUpToUnread : Position → Node → Node → Prop where
  | atom {p : Position} {l l' : Location} {a a' : Atom} :
      l.EqOn Span.start l' → a.EqUpToUnread a' → EqUpToUnread p (.atom l a) (.atom l' a')
  /-- A block among statements has its `do`, and its `end` if it owns one, at the same place. -/
  | doBlock {l l' : Location} {hasEnd : Bool} {body body' : List Node} :
      l.EqOn (Span.words hasEnd) l' → List.Forall₂ (EqUpToUnread .statement) body body' →
      EqUpToUnread .statement (.block l hasEnd body) (.block l' hasEnd body')
  | block {l l' : Location} {hasEnd : Bool} {body body' : List Node} :
      List.Forall₂ (EqUpToUnread .statement) body body' →
      EqUpToUnread .operand (.block l hasEnd body) (.block l' hasEnd body')
  | localDecl {p : Position} {l l' : Location} {targets targets' : List Node}
      {values values' : Option (List Node)} :
      l.EqOn Span.start l' → List.Forall₂ (EqUpToUnread .operand) targets targets' →
      Option.Rel (List.Forall₂ (EqUpToUnread .operand)) values values' →
      EqUpToUnread p (.localDecl l targets values) (.localDecl l' targets' values')
  | assign {p : Position} {l l' : Location} {targets targets' : List Node}
      {values values' : Option (List Node)} :
      List.Forall₂ (EqUpToUnread .operand) targets targets' →
      Option.Rel (List.Forall₂ (EqUpToUnread .operand)) values values' →
      EqUpToUnread p (.assign l targets values) (.assign l' targets' values')
  | ret {p : Position} {l l' : Location} {values values' : List Node} :
      l.EqOn Span.start l' → List.Forall₂ (EqUpToUnread .operand) values values' →
      EqUpToUnread p (.ret l values) (.ret l' values')
  | exprStat {p : Position} {l l' : Location} {e e' : Node} :
      EqUpToUnread .operand e e' → EqUpToUnread p (.exprStat l e) (.exprStat l' e')
  | indexName {p : Position} {l l' : Location} {base base' : Node} {name : String}
      {nl nl' : Option Location} {op : Option String} :
      EqUpToUnread .operand base base' → Option.Rel (Location.EqOn Span.start) nl nl' →
      EqUpToUnread p (.indexName l base name nl op) (.indexName l' base' name nl' op)
  | group {p : Position} {l l' : Location} {e e' : Node} :
      l.EqOn Span.parentheses l' → EqUpToUnread .operand e e' →
      EqUpToUnread p (.group l e) (.group l' e')
  | call {p : Position} {l l' : Location} {callee callee' : Node} {args args' : List Node} :
      l.EqOn Span.last l' → EqUpToUnread .operand callee callee' →
      List.Forall₂ (EqUpToUnread .operand) args args' →
      EqUpToUnread p (.call l callee args) (.call l' callee' args')
  | unary {p : Position} {l l' : Location} {op : String} {e e' : Node} :
      l.EqOn Span.start l' → EqUpToUnread .operand e e' →
      EqUpToUnread p (.unary l op e) (.unary l' op e')
  | binary {p : Position} {l l' : Location} {op : String} {left left' right right' : Node} :
      EqUpToUnread .operand left left' → EqUpToUnread .operand right right' →
      EqUpToUnread p (.binary l op left right) (.binary l' op left' right')
  /-- A node without a form is reported as it is. -/
  | unmodelled {p : Position} (tag : ForeignTag) (l : Location) (data : Json) :
      EqUpToUnread p (.unmodelled tag l data) (.unmodelled tag l data)

/-! ## Two runs over such trees -/

namespace Render

variable {n n' : Node} {p : Position}

/-- Lists that differ only in what is not read of their elements. -/
theorem thinned_of_eqUpToUnread {ns ns' : List Node}
    (ih : ∀ n ∈ ns, ∀ n' p, n.EqUpToUnread p n' → Alike .standard .standard p n n')
    (h : List.Forall₂ (Node.EqUpToUnread p) ns ns') :
    Thinned (Alike .standard .standard p) (Passed .standard p) ns ns' :=
  .of_forall₂ h fun n hn n' => ih n hn n' p

theorem assignValues_eq_of_eqUpToUnread {values values' : Option (List Node)}
    (ih : ∀ vs ∈ values, ∀ n ∈ vs, ∀ n' p, n.EqUpToUnread p n' → Alike .standard .standard p n n')
    (h : Option.Rel (List.Forall₂ (Node.EqUpToUnread .operand)) values values') (t : Dispatch) :
    assignValues .standard t values = assignValues .standard t values' := by
  cases h with
  | none => rfl
  | some hvs =>
    have ihvs := ih _ rfl
    cases hvs with
    | nil => rfl
    | cons hv hrest =>
      obtain ⟨ihv, ihrest⟩ := List.forall_mem_cons.mp ihvs
      exact assignValues_cons_congr (ihv _ _ hv) (thinned_of_eqUpToUnread ihrest hrest) t

/-- Nodes that differ only in what is not read of them are laid out alike. -/
theorem alike_of_eqUpToUnread (h : n.EqUpToUnread p n') : Alike .standard .standard p n n' := by
  -- the rule by which two nodes are related names the part of the location that is read there
  induction n using Node.induct generalizing p n' with
  | atom l a =>
    cases h with
    | @atom _ _ l' _ a' hl ha =>
      refine .of_renderer? (r := .native a.form) rfl ?_ ?_
      · rw [ha.form_eq]
        rfl
      · exact renderWith_atom_congr hl ha.form_eq ha.source_eq
  | block l hasEnd body ih =>
    -- where the block stands decides whether anything is read of its location
    cases h with
    | doBlock hl hbody =>
      have hwalk := walkNodes_congr (thinned_of_eqUpToUnread ih hbody)
      exact .of_renderer? (r := .doBlock) rfl rfl (renderWith_doBlock_congr hl hwalk)
    | block hbody =>
      have hwalk := walkNodes_congr (thinned_of_eqUpToUnread ih hbody)
      exact .of_renderer? (r := .native .block) rfl rfl (renderWith_block_congr hwalk)
  | localDecl l targets values iht ihv =>
    cases h with
    | localDecl hl ht hv =>
      have htargets := listNodes_congr (thinned_of_eqUpToUnread iht ht) "," false
      have hvalues := assignValues_eq_of_eqUpToUnread ihv hv
      exact .of_renderer? rfl rfl (renderWith_localDecl_congr hl htargets hvalues)
  | assign l targets values iht ihv =>
    cases h with
    | assign ht hv =>
      have htargets := listNodes_congr (thinned_of_eqUpToUnread iht ht) "," false
      have hvalues := assignValues_eq_of_eqUpToUnread ihv hv
      exact .of_renderer? rfl rfl (renderWith_assign_congr htargets hvalues)
  | ret l values ih =>
    cases h with
    | ret hl hv =>
      have hvalues := listNodes_congr (thinned_of_eqUpToUnread ih hv) "," false
      exact .of_renderer? rfl rfl (renderWith_ret_congr hl hvalues)
  | exprStat l e ih =>
    cases h with
    | exprStat he =>
      exact .of_renderer? rfl rfl (renderWith_exprStat_congr (ih he).dispatchAt_eq)
  | indexName l base name nl op ih =>
    cases h with
    | indexName hbase hnl =>
      exact .of_renderer? rfl rfl (renderWith_indexName_congr (ih hbase).dispatchAt_eq hnl)
  | group l e ih =>
    cases h with
    | group hl he =>
      exact .of_renderer? rfl rfl (renderWith_group_congr hl (ih he).dispatchAt_eq)
  | call l callee args ihc iha =>
    cases h with
    | call hl hcallee ha =>
      have hargs := listNodes_congr (thinned_of_eqUpToUnread iha ha) "," false
      exact .of_renderer? rfl rfl
        (renderWith_call_congr hl (ihc hcallee).dispatchAt_eq hargs)
  | unary l op e ih =>
    cases h with
    | unary hl he =>
      exact .of_renderer? rfl rfl (renderWith_unary_congr hl (ih he).dispatchAt_eq)
  | binary l op left right ihl ihr =>
    cases h with
    | binary hleft hright =>
      exact .of_renderer? rfl rfl
        (renderWith_binary_congr (ihl hleft).dispatchAt_eq (ihr hright).dispatchAt_eq)
  | unmodelled tag l data =>
    cases h with
    | unmodelled => exact .refl .standard p _

end Render

/-! ## Documents -/

/-- Two documents whose statements differ only in what is not read of them are laid out to the same
    text and outcome with the same reports, or fail in the same way. Of a root nothing is read but
    its statements. -/
theorem reconstruct_eq_of_eqUpToUnread {b b' : Block}
    (h : List.Forall₂ (Node.EqUpToUnread .statement) b.body b'.body) :
    reconstruct .standard b = reconstruct .standard b' := by
  have halike := Render.thinned_of_eqUpToUnread
    (fun n _ n' p hn => Render.alike_of_eqUpToUnread hn) h
  exact reconstruct_congr (Render.walkNodes_congr halike)

/-- Two dumps of one program with hardly a location in common. The assignment, its target and the
    block in an expression stand nowhere or elsewhere, and the variable is declared with another
    type. The call begins somewhere else; the group ends in front of the first column of a row, or
    behind it, which puts its parenthesis in the same place; the block without an `end` ends
    anywhere. A statement that nobody lays out has the same malformed location in both. -/
theorem reconstruct_eq_of_eqUpToUnread_elsewhere :
    let loop : Node := .unmodelled ⟨"AstStatRepeat", by decide +kernel⟩ ⟨"?"⟩ .null
    let dump (root stat target declared member call group block inner : String)
        (declaredType : Option Json) : Block :=
      ⟨⟨root⟩, false,
        [.assign ⟨stat⟩
          [.indexName ⟨target⟩ (.atom ⟨"0,0 - 0,1"⟩ (.localRef ⟨⟨declared⟩, "t", declaredType⟩)) "f"
            (some ⟨member⟩) none]
          (some [.call ⟨call⟩ (.atom ⟨"0,6 - 0,7"⟩ (.global "g"))
            [.group ⟨group⟩ (.atom ⟨"0,9 - 0,12"⟩ .nil)]]),
        .block ⟨block⟩ false [.exprStat ⟨""⟩ (.block ⟨inner⟩ true [.atom ⟨"3,2 - 3,7"⟩ .breakStat])],
        loop]⟩
    let b := dump "" "?" "x" "" "0,2 - 0,3" "0,6 - 1,2" "0,8 - 1,0" "2,0 - 4,0" "" none
    let b' := dump "0,0 - 9,9" "" "0,0 - 0,3" "-" "0,2 - 7,7" "5,5 - 1,2" "0,8 - 1,1" "2,0 - 2,1"
      "?" (some .null)
    List.Forall₂ (Node.EqUpToUnread .statement) b.body b'.body ∧
      reconstruct .standard b = reconstruct .standard b' ∧
      (reconstruct .standard b).2.toOption =
        some ⟨"t.f = g((nil\n))\ndo\n  break", .incomplete [.ofNode loop]⟩ := by
  intro loop dump b b'
  have hmember : Location.EqOn Span.start ⟨"0,2 - 0,3"⟩ ⟨"0,2 - 7,7"⟩ :=
    .inr ⟨⟨⟨0, 2⟩, ⟨0, 3⟩⟩, ⟨⟨0, 2⟩, ⟨7, 7⟩⟩, by decide +kernel, by decide +kernel, rfl⟩
  have hcall : Location.EqOn Span.last ⟨"0,6 - 1,2"⟩ ⟨"5,5 - 1,2"⟩ :=
    .inr ⟨⟨⟨0, 6⟩, ⟨1, 2⟩⟩, ⟨⟨5, 5⟩, ⟨1, 2⟩⟩, by decide +kernel, by decide +kernel, rfl⟩
  have hgroup : Location.EqOn Span.parentheses ⟨"0,8 - 1,0"⟩ ⟨"0,8 - 1,1"⟩ :=
    .inr ⟨⟨⟨0, 8⟩, ⟨1, 0⟩⟩, ⟨⟨0, 8⟩, ⟨1, 1⟩⟩, by decide +kernel, by decide +kernel, rfl⟩
  have hblock : Location.EqOn (Span.words false) ⟨"2,0 - 4,0"⟩ ⟨"2,0 - 2,1"⟩ :=
    .inr ⟨⟨⟨2, 0⟩, ⟨4, 0⟩⟩, ⟨⟨2, 0⟩, ⟨2, 1⟩⟩, by decide +kernel, by decide +kernel, rfl⟩
  have htoken : ∀ l a p, Node.EqUpToUnread p (.atom l a) (.atom l a) := fun l a p =>
    .atom (.refl _ l) (.same a)
  have hbody : List.Forall₂ (Node.EqUpToUnread .statement) b.body b'.body := by
    refine .cons (.assign (.cons ?_ .nil) (.some (.cons ?_ .nil)))
      (.cons (.doBlock hblock (.cons (.exprStat (.block (.cons (htoken _ _ _) .nil))) .nil))
        (.cons (.unmodelled _ _ _) .nil))
    · exact .indexName (.atom (.refl _ _) (.localRef _ _ _ _ _)) (.some hmember)
    · exact .call hcall (htoken _ _ _) (.cons (.group hgroup (htoken _ _ _)) .nil)
  exact ⟨hbody, reconstruct_eq_of_eqUpToUnread hbody, by decide +kernel⟩

end LuauLayout
