/-
  LuauLayout.Proofs.Render.Assignment

  Targets, the sign between, and values.

  Whether ` = ` is due is decided by a look at the first value; which values are
  handed to a renderer is decided by the pass over the list. The two decisions
  can only part at a value that is neither handed on nor ends the list, that is
  at an annotation. Where none stands first, the sign is there exactly when some
  value is handed on, behind all that the targets do and in front of all that the
  values do. Where one does, the values behind it follow the targets without a
  sign.

    * `actions_isPrefix_bind`     — what is done first stays in front.
    * `actions_dispatchList_of_nil`, `actions_dispatch_isPrefix` — a list from
      which nothing is handed on, and one from which a node is.
    * `signOf_cases`              — the two decisions compared.
    * `dispatchAssignment_isSigned` — an assignment, from targets to values.
-/

import LuauLayout.Proofs.Render.Separated

namespace LuauLayout

/-- The sign between targets and values, if a list of values calls for it. -/
def Node.signOf (reg : Registry Renderer) (values : List Node) : List Action :=
  if values.head?.any fun first => reg.has first.kind then [.append " = "] else []

namespace Node

variable {reg : Registry Renderer}

theorem signOf_cons_of_not_has {first : Node} (h : reg.has first.kind = false)
    (others : List Node) : signOf reg (first :: others) = [] := by
  rw [signOf, List.head?_cons, Option.any_some, h]
  rfl

/-- The first value that is handed on is the first of all, and there is a sign, or an annotation
    stands first, and there is none. -/
theorem signOf_cases {values : List Node} {v : Node} {rest : List Node}
    (h : handedOn reg values = v :: rest) :
    (signOf reg values = [.append " = "] ∧ values.head? = some v) ∨
      (signOf reg values = [] ∧ ∃ note behind, values = note :: behind ∧
        reg.has note.kind = false ∧ isTypeTag note.kind = true) := by
  cases values with
  | nil => cases h
  | cons first others =>
    cases hfirst : reg.has first.kind with
    | true =>
      rw [handedOn_cons_of_has hfirst] at h
      obtain ⟨rfl, -⟩ := List.cons.inj h
      exact .inl ⟨if_pos hfirst, rfl⟩
    | false =>
      refine .inr ⟨signOf_cons_of_not_has hfirst others, first, others, rfl, hfirst, ?_⟩
      -- any other node without a renderer would have ended the list
      by_contra htype
      rw [Bool.not_eq_true] at htype
      have hunhandled : first.isHandled reg = false := by
        rw [isHandled, hfirst, htype, Bool.or_false]
      rw [handedOn_cons_of_unhandled hunhandled] at h
      cases h

/-- Where no value is handed on, the first has no renderer either. -/
theorem signOf_eq_nil {values : List Node} (h : handedOn reg values = []) :
    signOf reg values = [] := by
  cases values with
  | nil => rfl
  | cons first others =>
    cases hfirst : reg.has first.kind with
    | true =>
      rw [handedOn_cons_of_has hfirst] at h
      cases h
    | false => exact signOf_cons_of_not_has hfirst others

end Node

namespace Render

variable {α β : Type} {reg : Registry Renderer}

/-- What is done first stays in front, also if the second fails or is not begun. -/
theorem actions_isPrefix_bind (m : Render α) (f : α → Render β) :
    m.actions <+: (m >>= f).actions := by
  cases h : m.result with
  | error e =>
    refine ⟨[], ?_⟩
    rw [List.append_nil, bind_of_error h]
  | ok a =>
    rw [bind_of_ok h]
    exact List.prefix_append _ _

/-- A list from which nothing is handed on does nothing but report its end. -/
theorem actions_dispatchList_of_nil {ns : List Node} (sep : String)
    (h : Node.handedOn reg ns = []) : (dispatchList reg sep ns).actions =
      (Node.unhandled? reg ns).toList.map fun u => .report (.ofNode u) := by
  rw [dispatchList_eq_separated, h]
  cases Node.unhandled? reg ns <;> rfl

/-- A list begins with the first node that is handed on. -/
theorem actions_dispatch_isPrefix {ns : List Node} (sep : String) {n : Node} {rest : List Node}
    (h : Node.handedOn reg ns = n :: rest) :
    (dispatch reg n).actions <+: (dispatchList reg sep ns).actions := by
  rw [dispatchList_eq_separated, h, separated]
  exact (actions_isPrefix_bind _ _).trans (actions_isPrefix_bind _ _)

/-- An assignment that does not fail has laid out its targets, then the sign, then its values. -/
theorem exists_of_dispatchAssignment {targets : List Node} {values : Option (List Node)}
    {d : Dispatch} (h : (dispatchAssignment reg targets values).result = .ok d) :
    (dispatchAssignment reg targets values).actions =
      (dispatchList reg "," targets).actions ++ Node.signOf reg (values.getD []) ++
        (dispatchList reg "," (values.getD [])).actions := by
  obtain ⟨t, -, hvalues, hactions⟩ := exists_of_bind_ok h
  rw [show (dispatchAssignment reg targets values).actions = _ from hactions, List.append_assoc]
  congr 1
  cases values with
  | none => rfl
  | some vs =>
    rw [assignValues_some] at hvalues ⊢
    obtain ⟨_, -, hlist, hsign⟩ := exists_of_bind_ok hvalues
    obtain ⟨_, -, -, hrest⟩ := exists_of_bind_ok hlist
    -- the sign depends on the first of all values, not on the first that is handed on
    have hdue : (appendIf (vs.head?.any fun first => reg.has first.kind) " = ").actions
        = Node.signOf reg vs := by
      rw [appendIf, Node.signOf]
      split <;> rfl
    rw [hsign, hrest, hdue]
    exact congrArg _ (List.append_nil _)

/-- The sign between targets and values. If an assignment does not fail, what it does is what its
    targets do as a list, the sign or nothing, and what its values do as a list. If no value is
    handed to a renderer, there is no sign, and the values do nothing but report the one that ends
    their list. If one is, the values begin with what the first of these does; and ` = ` stands in
    front of it, appended once, exactly if it is the first of all values. Otherwise an annotation
    stands in front, which is passed over, and there is no sign. -/
theorem dispatchAssignment_isSigned {targets : List Node} {values : Option (List Node)}
    {d : Dispatch} (h : (dispatchAssignment reg targets values).result = .ok d) :
    let vs := values.getD []
    (dispatchAssignment reg targets values).actions =
        (dispatchList reg "," targets).actions ++ Node.signOf reg vs ++
          (dispatchList reg "," vs).actions ∧
      (Node.handedOn reg vs = [] → Node.signOf reg vs = [] ∧
        (dispatchList reg "," vs).actions =
          (Node.unhandled? reg vs).toList.map fun u => .report (.ofNode u)) ∧
      ∀ v rest, Node.handedOn reg vs = v :: rest →
        (dispatch reg v).actions <+: (dispatchList reg "," vs).actions ∧
        ((Node.signOf reg vs = [.append " = "] ∧ vs.head? = some v) ∨
          (Node.signOf reg vs = [] ∧ ∃ note behind, vs = note :: behind ∧
            reg.has note.kind = false ∧ isTypeTag note.kind = true)) := by
  intro vs
  refine ⟨exists_of_dispatchAssignment h, fun hnone => ?_, fun v rest hv => ?_⟩
  · exact ⟨Node.signOf_eq_nil hnone, actions_dispatchList_of_nil "," hnone⟩
  · exact ⟨actions_dispatch_isPrefix "," hv, Node.signOf_cases hv⟩

/-- Two targets, of which the second ends its list, and three values, of which the last does. The
    sign stands behind the report of the second target. -/
theorem dispatchAssignment_isSigned_behind_halt :
    let quoted : Node := .unmodelled ⟨"AstExprInterpString", by decide +kernel⟩ ⟨""⟩ .null
    let note : Node := .unmodelled ⟨"AstTypeFunction", by decide +kernel⟩ ⟨""⟩ .null
    let a : Node := .atom ⟨"0,0 - 0,1"⟩ (.global "a")
    let first : Node := .atom ⟨"0,4 - 0,7"⟩ .nil
    let second : Node := .atom ⟨"0,8 - 0,11"⟩ .nil
    let vs := [first, note, second, quoted]
    let done := dispatchAssignment .standard [a, quoted] (some vs)
    done.result = .ok .unsupported ∧
      done.actions = (dispatchList .standard "," [a, quoted]).actions ++ [.append " = "] ++
        (dispatchList .standard "," vs).actions ∧
      (dispatch .standard first).actions <+: (dispatchList .standard "," vs).actions ∧
      (Context.empty.run done).1.finish =
        ⟨"a = nil,nil", .incomplete [.ofNode quoted, .ofNode quoted]⟩ := by
  intro quoted note a first second vs done
  have hdone : done.result = .ok .unsupported := eq_ok_of_toOption (by decide +kernel)
  have hhas : Registry.standard.has first.kind = true :=
    Registry.has_eq_true_iff.mpr ⟨_, Registry.get?_standard_tag .nil⟩
  have hhanded := Node.handedOn_cons_of_has hhas [note, second, quoted]
  have hsign : Node.signOf Registry.standard vs = [.append " = "] := if_pos hhas
  obtain ⟨hactions, -, hvalues⟩ := dispatchAssignment_isSigned hdone
  rw [Option.getD_some, hsign] at hactions
  exact ⟨hdone, hactions, (hvalues first _ hhanded).1, by decide +kernel⟩

/-- An annotation in front of the only value: it is passed over and the value is handed on, but no
    sign is appended. The text is complete and lacks it. -/
theorem exists_assignment_without_sign : Registry.standard.IsBuiltIn ∧
    ∃ (note target value : Node) (d : Dispatch),
      let done := dispatchAssignment .standard [target] (some [note, value])
      let decl : Node := .localDecl ⟨"0,0 - 0,13"⟩ [target] (some [note, value])
      done.result = .ok d ∧ (∃ rest, Node.handedOn .standard [note, value] = value :: rest) ∧
        .append " = " ∉ done.actions ∧
        (reconstruct .standard ⟨⟨""⟩, false, [decl]⟩).2.toOption
          = some ⟨"local x   nil", .complete⟩ := by
  let note : Node := .unmodelled ⟨"AstTypeOptional", by decide +kernel⟩ ⟨""⟩ .null
  let target : Node := .atom ⟨"0,6 - 0,7"⟩ (.binding "x" none)
  let value : Node := .atom ⟨"0,10 - 0,13"⟩ .nil
  refine ⟨Registry.isBuiltIn_standard, note, target, value, .rendered,
    eq_ok_of_toOption (by decide +kernel), ?_, by decide +kernel, by decide +kernel⟩
  have hnote : Registry.standard.has note.kind = false := by decide +kernel
  have htype : isTypeTag note.kind = true := by decide +kernel
  have hvalue : Registry.standard.has value.kind = true :=
    Registry.has_eq_true_iff.mpr ⟨_, Registry.get?_standard_tag .nil⟩
  exact ⟨_, (Node.handedOn_cons_of_isTypeTag hnote htype _).trans
    (Node.handedOn_cons_of_has hvalue _)⟩

end Render
end LuauLayout
