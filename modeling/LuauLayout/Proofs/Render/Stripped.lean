/-
  LuauLayout.Proofs.Render.Stripped

  Type annotations in lists are invisible.

  An annotation among statements, targets, values, arguments or results is
  passed over, by the walk in one way and by the lists in another. Taking any of
  them out of a tree changes nothing that is done: no separator, no report, no
  failure, and no location that is read. The one exception is the first value of
  an assignment, which decides whether there is a ` = ` in front of the values.

    * `Node.IsTypeTagged` — an annotation; it is always unmodelled.
    * `Node.Stripped`     — a tree against itself without some annotations.
    * `alike_of_stripped`, `checks_of_stripped` — what is done and what is
      checked, by induction along the nodes.
    * `reconstruct_eq_of_stripped` — both for a document.
-/

import LuauLayout.Proofs.Node.Reading
import LuauLayout.Proofs.Render.Congruence

namespace LuauLayout

/-! ## Annotations -/

/-- The node is a static type annotation. -/
def Node.IsTypeTagged (n : Node) : Prop := isTypeTag n.kind = true

namespace Node.IsTypeTagged

variable {n : Node}

/-- No form is an annotation, and neither is the tag of the blocks among statements. -/
theorem exists_unmodelled (h : n.IsTypeTagged) :
    ∃ tag l data, n = .unmodelled tag l data ∧ tag.text ≠ Renderer.doBlockTag := by
  have hform : ∀ f : Form, n.kind ≠ f.tag := by
    intro f hk
    rw [IsTypeTagged, hk, isTypeTag_tag] at h
    cases h
  cases n with
  | unmodelled tag l data =>
    refine ⟨tag, l, data, rfl, fun ht => ?_⟩
    have hdo : isTypeTag Renderer.doBlockTag = true := ht ▸ h
    exact absurd hdo (by decide)
  | atom l a => exact absurd rfl (hform a.form)
  | block => exact absurd rfl (hform .block)
  | localDecl => exact absurd rfl (hform .localDecl)
  | assign => exact absurd rfl (hform .assign)
  | ret => exact absurd rfl (hform .ret)
  | exprStat => exact absurd rfl (hform .exprStat)
  | indexName => exact absurd rfl (hform .indexName)
  | group => exact absurd rfl (hform .group)
  | call => exact absurd rfl (hform .call)
  | unary => exact absurd rfl (hform .unary)
  | binary => exact absurd rfl (hform .binary)

theorem renderer?_eq (h : n.IsTypeTagged) (p : Position) : n.renderer? p = none := by
  obtain ⟨tag, l, data, rfl, ht⟩ := h.exists_unmodelled
  cases p <;> exact if_neg ht

/-- The standard registry passes over an annotation. -/
theorem passed (h : n.IsTypeTagged) (p : Position) : Render.Passed .standard p n := by
  refine .of_isTypeTag ?_ h
  rw [Registry.get?_standard_tagAt, h.renderer?_eq]

theorem fate_eq (h : n.IsTypeTagged) : n.fate = .ignored := by
  rw [fate_of_no_renderer (h.renderer?_eq .operand)]
  exact if_pos h

theorem checks_eq (h : n.IsTypeTagged) (p : Position) : n.checks p = [] := by
  obtain ⟨tag, l, data, rfl, ht⟩ := h.exists_unmodelled
  rw [checks, if_neg ht]

end Node.IsTypeTagged

/-! ## Trees from which annotations are missing -/

/-- The values of an assignment, if it has any, against others from which elements may be missing,
    but not the first. -/
inductive ThinnedBehind {α β : Type} (keep : α → β → Prop) (drop : α → Prop) :
    Option (List α) → Option (List β) → Prop where
  | none : ThinnedBehind keep drop none none
  | nil : ThinnedBehind keep drop (some []) (some [])
  | cons {a : α} {b : β} {as : List α} {bs : List β} :
      keep a b → Thinned keep drop as bs →
      ThinnedBehind keep drop (some (a :: as)) (some (b :: bs))

/-- A node against itself without some of the annotations in the lists below it. What stands alone
    below a node, and the first of some values, stays, be it an annotation or not. -/
inductive Node.Stripped : Node → Node → Prop where
  | atom (l : Location) (a : Atom) : Stripped (.atom l a) (.atom l a)
  | block {l : Location} {hasEnd : Bool} {body body' : List Node} :
      Thinned Stripped IsTypeTagged body body' →
      Stripped (.block l hasEnd body) (.block l hasEnd body')
  | localDecl {l : Location} {targets targets' : List Node} {values values' : Option (List Node)} :
      Thinned Stripped IsTypeTagged targets targets' →
      ThinnedBehind Stripped IsTypeTagged values values' →
      Stripped (.localDecl l targets values) (.localDecl l targets' values')
  | assign {l : Location} {targets targets' : List Node} {values values' : Option (List Node)} :
      Thinned Stripped IsTypeTagged targets targets' →
      ThinnedBehind Stripped IsTypeTagged values values' →
      Stripped (.assign l targets values) (.assign l targets' values')
  | ret {l : Location} {values values' : List Node} :
      Thinned Stripped IsTypeTagged values values' → Stripped (.ret l values) (.ret l values')
  | exprStat {l : Location} {e e' : Node} :
      Stripped e e' → Stripped (.exprStat l e) (.exprStat l e')
  | indexName {l : Location} {base base' : Node} {name : String} {nl : Option Location}
      {op : Option String} :
      Stripped base base' → Stripped (.indexName l base name nl op) (.indexName l base' name nl op)
  | group {l : Location} {e e' : Node} : Stripped e e' → Stripped (.group l e) (.group l e')
  | call {l : Location} {callee callee' : Node} {args args' : List Node} :
      Stripped callee callee' → Thinned Stripped IsTypeTagged args args' →
      Stripped (.call l callee args) (.call l callee' args')
  | unary {l : Location} {op : String} {e e' : Node} :
      Stripped e e' → Stripped (.unary l op e) (.unary l op e')
  | binary {l : Location} {op : String} {left left' right right' : Node} :
      Stripped left left' → Stripped right right' →
      Stripped (.binary l op left right) (.binary l op left' right')
  | unmodelled (tag : ForeignTag) (l : Location) (data : Json) :
      Stripped (.unmodelled tag l data) (.unmodelled tag l data)

/-! ## What is done -/

namespace Render

variable {n n' : Node} {p : Position}

/-- What is left of a list, laid out alike element by element. -/
theorem thinned_of_stripped {ns ns' : List Node}
    (ih : ∀ n ∈ ns, ∀ n', n.Stripped n' → ∀ p, Alike .standard .standard p n n')
    (h : Thinned Node.Stripped Node.IsTypeTagged ns ns') :
    Thinned (Alike .standard .standard p) (Passed .standard p) ns ns' :=
  h.imp (fun n hn n' hs => ih n hn n' hs p) fun _ hn => hn.passed p

theorem assignValues_eq_of_stripped {values values' : Option (List Node)}
    (ih : ∀ vs ∈ values, ∀ n ∈ vs, ∀ n', n.Stripped n' → ∀ p, Alike .standard .standard p n n')
    (h : ThinnedBehind Node.Stripped Node.IsTypeTagged values values') (t : Dispatch) :
    assignValues .standard t values = assignValues .standard t values' := by
  cases h with
  | none => rfl
  | nil => rfl
  | cons hv hrest =>
    obtain ⟨ihv, ihrest⟩ := List.forall_mem_cons.mp (ih _ rfl)
    exact assignValues_cons_congr (ihv _ hv .operand) (thinned_of_stripped ihrest hrest) t

/-- A node is laid out like itself without some of its annotations. -/
theorem alike_of_stripped (h : n.Stripped n') (p : Position) :
    Alike .standard .standard p n n' := by
  -- locations stay as they are, so all that may differ is what stands below
  induction n using Node.induct generalizing p n' with
  | atom l a =>
    cases h with
    | atom => exact .refl .standard p _
  | block l hasEnd body ih =>
    cases h with
    | block hbody =>
      have hwalk := walkNodes_congr (thinned_of_stripped ih hbody)
      -- a block has a renderer of its own among statements
      cases p with
      | statement =>
        exact .of_renderer? (r := .doBlock) rfl rfl (renderWith_doBlock_congr (.refl _ l) hwalk)
      | operand => exact .of_renderer? (r := .native .block) rfl rfl (renderWith_block_congr hwalk)
  | localDecl l targets values iht ihv =>
    cases h with
    | localDecl ht hv =>
      have htargets := listNodes_congr (thinned_of_stripped iht ht) "," false
      have hvalues := assignValues_eq_of_stripped ihv hv
      exact .of_renderer? rfl rfl (renderWith_localDecl_congr (.refl _ l) htargets hvalues)
  | assign l targets values iht ihv =>
    cases h with
    | assign ht hv =>
      have htargets := listNodes_congr (thinned_of_stripped iht ht) "," false
      have hvalues := assignValues_eq_of_stripped ihv hv
      exact .of_renderer? rfl rfl (renderWith_assign_congr htargets hvalues)
  | ret l values ih =>
    cases h with
    | ret hv =>
      have hvalues := listNodes_congr (thinned_of_stripped ih hv) "," false
      exact .of_renderer? rfl rfl (renderWith_ret_congr (.refl _ l) hvalues)
  | exprStat l e ih =>
    cases h with
    | exprStat he =>
      exact .of_renderer? rfl rfl (renderWith_exprStat_congr (ih he .operand).dispatchAt_eq)
  | indexName l base name nl op ih =>
    cases h with
    | indexName hbase =>
      exact .of_renderer? rfl rfl
        (renderWith_indexName_congr (ih hbase .operand).dispatchAt_eq
          (Location.rel_eqOn_refl _ nl))
  | group l e ih =>
    cases h with
    | group he =>
      exact .of_renderer? rfl rfl
        (renderWith_group_congr (.refl _ l) (ih he .operand).dispatchAt_eq)
  | call l callee args ihc iha =>
    cases h with
    | call hcallee ha =>
      have hargs := listNodes_congr (thinned_of_stripped iha ha) "," false
      exact .of_renderer? rfl rfl
        (renderWith_call_congr (.refl _ l) (ihc hcallee .operand).dispatchAt_eq hargs)
  | unary l op e ih =>
    cases h with
    | unary he =>
      exact .of_renderer? rfl rfl
        (renderWith_unary_congr (.refl _ l) (ih he .operand).dispatchAt_eq)
  | binary l op left right ihl ihr =>
    cases h with
    | binary hleft hright =>
      exact .of_renderer? rfl rfl
        (renderWith_binary_congr (ihl hleft .operand).dispatchAt_eq
          (ihr hright .operand).dispatchAt_eq)
  | unmodelled tag l data =>
    cases h with
    | unmodelled => exact .refl .standard p _

end Render

/-! ## What is checked -/

namespace Node

variable {n n' : Node} {p : Position}

theorem Stripped.fate_eq (h : n.Stripped n') : n.fate = n'.fate := by
  cases h <;> rfl

theorem checksIn_of_stripped {ns ns' : List Node}
    (ih : ∀ n ∈ ns, ∀ n', n.Stripped n' → ∀ p, n.checks p = n'.checks p)
    (h : Thinned Stripped IsTypeTagged ns ns') : checksIn p ns = checksIn p ns' := by
  induction h with
  | nil => rfl
  | keep hn _ ihrest =>
    obtain ⟨ihn, ihns⟩ := List.forall_mem_cons.mp ih
    rw [checksIn, checksIn, ihn _ hn p, hn.fate_eq, ihrest ihns]
  | drop hn _ ihrest =>
    -- nothing is checked of an annotation, and it does not cut the checks behind it short
    obtain ⟨-, ihns⟩ := List.forall_mem_cons.mp ih
    rw [checksIn, hn.checks_eq p, hn.fate_eq, if_neg (by decide), List.nil_append, ihrest ihns]

theorem checksInValues_of_stripped {values values' : Option (List Node)}
    (ih : ∀ vs ∈ values, ∀ n ∈ vs, ∀ n', n.Stripped n' → ∀ p, n.checks p = n'.checks p)
    (h : ThinnedBehind Stripped IsTypeTagged values values') :
    checksInValues values = checksInValues values' := by
  cases h with
  | none => rfl
  | nil => rfl
  | cons hv hrest =>
    rw [checksInValues, checksInValues]
    exact checksIn_of_stripped (ih _ rfl) (.keep hv hrest)

/-- The same is checked of a node as of itself without some of its annotations. -/
theorem checks_of_stripped (h : n.Stripped n') (p : Position) : n.checks p = n'.checks p := by
  induction n using Node.induct generalizing p n' with
  | atom l a =>
    cases h with
    | atom => rfl
  | block l hasEnd body ih =>
    cases h with
    | block hbody =>
      have hin := checksIn_of_stripped (p := .statement) ih hbody
      cases p with
      | statement => rw [checks, checks, hin]
      | operand => rw [checks, checks, hin]
  | localDecl l targets values iht ihv =>
    cases h with
    | localDecl ht hv =>
      rw [checks, checks, checksIn_of_stripped iht ht,
        checksInValues_of_stripped ihv hv]
  | assign l targets values iht ihv =>
    cases h with
    | assign ht hv =>
      rw [checks, checks, checksIn_of_stripped iht ht,
        checksInValues_of_stripped ihv hv]
  | ret l values ih =>
    cases h with
    | ret hv =>
      rw [checks, checks, checksIn_of_stripped ih hv]
  | exprStat l e ih =>
    cases h with
    | exprStat he => rw [checks, checks, ih he .operand]
  | indexName l base name nl op ih =>
    cases h with
    | indexName hbase => rw [checks, checks, ih hbase .operand, hbase.fate_eq]
  | group l e ih =>
    cases h with
    | group he => rw [checks, checks, ih he .operand]
  | call l callee args ihc iha =>
    cases h with
    | call hcallee ha =>
      -- whether the arguments are checked at all depends on the fate of the callee
      rw [checks, checks, ihc hcallee .operand, hcallee.fate_eq,
        checksIn_of_stripped iha ha]
  | unary l op e ih =>
    cases h with
    | unary he => rw [checks, checks, ih he .operand]
  | binary l op left right ihl ihr =>
    cases h with
    | binary hleft hright =>
      rw [checks, checks, ihl hleft .operand, hleft.fate_eq, ihr hright .operand]
  | unmodelled tag l data =>
    cases h with
    | unmodelled => rfl

end Node

/-! ## Documents -/

/-- A document without some of the annotations in its lists gives the same result as with them:
    the same text and outcome with the same reports, or the same failure. The walks take the same
    actions, with no separator more or less, and read the same locations in the same order, so
    that no location of a missing annotation is read. -/
theorem reconstruct_eq_of_stripped {b b' : Block}
    (h : Thinned Node.Stripped Node.IsTypeTagged b.body b'.body) :
    reconstruct .standard b = reconstruct .standard b' ∧
      Render.walk .standard b = Render.walk .standard b' ∧ b.checks = b'.checks := by
  have halike := Render.thinned_of_stripped (p := .statement)
    (fun n _ n' hn => Render.alike_of_stripped hn) h
  have hwalk : Render.walk .standard b = Render.walk .standard b' := Render.walkNodes_congr halike
  have hchecks : b.checks = b'.checks :=
    Node.checksIn_of_stripped (fun n _ n' hn => Node.checks_of_stripped hn) h
  exact ⟨reconstruct_congr hwalk, hwalk, hchecks⟩

/-- Annotations at malformed locations among statements, targets, values, arguments and results, in
    front, between and behind, also behind a result that nobody lays out. -/
theorem reconstruct_eq_of_stripped_everywhere :
    let reference : Node := .unmodelled ⟨"AstTypeReference", by decide +kernel⟩ ⟨"?"⟩ .null
    let choice : Node := .unmodelled ⟨"AstExprIfElse", by decide +kernel⟩ ⟨"2,14"⟩ .null
    let x : Node := .atom ⟨"0,6 - 0,7"⟩ (.binding "x" none)
    let y : Node := .atom ⟨"0,8 - 0,9"⟩ (.binding "y" none)
    let dump (extra : List Node) : Block :=
      ⟨⟨""⟩, false,
        extra ++ [.localDecl ⟨"0,0 - 0,22"⟩ (x :: extra ++ y :: extra)
          (some (.call ⟨"0,12 - 0,22"⟩ (.atom ⟨"0,12 - 0,13"⟩ (.global "f"))
            (extra ++ .atom ⟨"0,14 - 0,17"⟩ .nil :: extra ++ [.atom ⟨"0,18 - 0,21"⟩ .varargs]) ::
              extra))] ++
        extra ++ [.block ⟨"1,0 - 3,0"⟩ true
          (extra ++ [.ret ⟨"2,2 - 2,8"⟩ (extra ++ .atom ⟨"2,9 - 2,13"⟩ (.bool true) :: extra ++
            choice :: extra)])]⟩
    let b := dump [reference]
    let b' := dump []
    Thinned Node.Stripped Node.IsTypeTagged b.body b'.body ∧
      reconstruct .standard b = reconstruct .standard b' ∧
      (reconstruct .standard b).2.toOption =
        some ⟨"local x,y = f(nil,...)\ndo\n  return true\nend", .incomplete [.ofNode choice]⟩ := by
  intro reference choice x y dump b b'
  have href : reference.IsTypeTagged := by
    show isTypeTag "AstTypeReference" = true
    decide
  have hbody : Thinned Node.Stripped Node.IsTypeTagged b.body b'.body := by
    refine .drop href (.keep (.localDecl ?_ (.cons (.call (.atom _ _) ?_) (.drop href .nil)))
      (.drop href (.keep (.block (.drop href (.keep (.ret ?_) .nil))) .nil)))
    · exact .keep (.atom _ _) (.drop href (.keep (.atom _ _) (.drop href .nil)))
    · exact .drop href (.keep (.atom _ _) (.drop href (.keep (.atom _ _) .nil)))
    · exact .drop href (.keep (.atom _ _) (.drop href (.keep (.unmodelled _ _ _) (.drop href .nil))))
  exact ⟨hbody, (reconstruct_eq_of_stripped hbody).1, by decide +kernel⟩

end LuauLayout
