/-
  LuauLayout.Proofs.Render.Congruence

  Two runs side by side.

  What a registry makes of a tree does not change if a part of the tree, or an
  entry of the registry, is exchanged for one that makes no difference. Below,
  two runs are compared, each with a registry and a node of its own. Every
  renderer carries agreement of the parts over to agreement of the whole, and
  what it reads of a location is all that has to agree there. What is proved
  of two runs by induction along the nodes starts from these rules.

    * `Location.EqOn`  — two locations that are the same to whoever reads a part.
    * `Thinned`        — a list against another from which elements may be missing.
    * `Alike`          — two registries make the same of two nodes.
    * `listNodes_congr`, `walkNodes_congr`, `assignValues_cons_congr` — sequences.
    * `renderWith_call_congr`, ... — the renderers of the forms.
    * `reconstruct_congr` — documents.
-/

import LuauLayout.Proofs.Render.Position
import LuauLayout.Render.Reconstruction
import Mathlib.Data.List.Forall2

namespace LuauLayout

/-! ## Locations of which only a part is read -/

/-- The places of the words around a block, as far as there are any. -/
def Span.words (hasEnd : Bool) (s : Span) : Coordinate × Option Coordinate :=
  (s.start, if hasEnd then some s.stop else none)

/-- The places of the two parentheses of a group. -/
def Span.parentheses (s : Span) : Coordinate × Coordinate := (s.start, s.last)

namespace Location

variable {α : Type} {l l' : Location} {view : Span → α}

/-- The same location, or two that name spans with a part in common. -/
def EqOn (view : Span → α) (l l' : Location) : Prop :=
  l = l' ∨ ∃ s s', l.read = .ok s ∧ l'.read = .ok s' ∧ view s = view s'

theorem EqOn.refl (view : Span → α) (l : Location) : l.EqOn view l := .inl rfl

/-- The same location, if there is one. -/
theorem rel_eqOn_refl (view : Span → α) (l : Option Location) : Option.Rel (EqOn view) l l := by
  cases l with
  | none => exact .none
  | some l => exact .some (.refl view l)

theorem span_of_read {s : Span} (h : l.read = .ok s) : l.span = .ok s := by
  rw [span, h]
  rfl

/-- Reading the start of either has the same result, also if it fails. -/
theorem EqOn.start_eq (h : l.EqOn Span.start l') : l.start = l'.start := by
  rcases h with rfl | ⟨s, s', hs, hs', hview⟩
  · rfl
  · rw [start, start, span_of_read hs, span_of_read hs']
    exact congrArg Except.ok hview

end Location

/-! ## Lists from which elements are missing -/

/-- A list against another: what is kept of the first stands in a relation to the elements of the
    second, in order, and what is missing has a property. -/
inductive Thinned {α β : Type} (keep : α → β → Prop) (drop : α → Prop) :
    List α → List β → Prop where
  | nil : Thinned keep drop [] []
  | keep {a : α} {b : β} {as : List α} {bs : List β} :
      keep a b → Thinned keep drop as bs → Thinned keep drop (a :: as) (b :: bs)
  | drop {a : α} {as : List α} {bs : List β} :
      drop a → Thinned keep drop as bs → Thinned keep drop (a :: as) bs

namespace Thinned

variable {α β : Type} {keep keep' : α → β → Prop} {drop drop' : α → Prop}
  {as : List α} {bs : List β}

theorem imp (h : Thinned keep drop as bs) (hkeep : ∀ a ∈ as, ∀ b, keep a b → keep' a b)
    (hdrop : ∀ a, drop a → drop' a) : Thinned keep' drop' as bs := by
  induction h with
  | nil => exact .nil
  | keep hab _ ih =>
    obtain ⟨hhead, htail⟩ := List.forall_mem_cons.mp hkeep
    exact .keep (hhead _ hab) (ih htail)
  | drop ha _ ih =>
    obtain ⟨-, htail⟩ := List.forall_mem_cons.mp hkeep
    exact .drop (hdrop _ ha) (ih htail)

/-- Nothing is missing from a list that agrees with another element by element. -/
theorem of_forall₂ (h : List.Forall₂ keep as bs)
    (hkeep : ∀ a ∈ as, ∀ b, keep a b → keep' a b) : Thinned keep' drop as bs := by
  induction h with
  | nil => exact .nil
  | cons hab _ ih =>
    obtain ⟨hhead, htail⟩ := List.forall_mem_cons.mp hkeep
    exact .keep (hhead _ hab) (ih htail)

theorem of_self {keep : α → α → Prop} (h : ∀ a ∈ as, keep a a) : Thinned keep drop as as :=
  of_forall₂ (List.forall₂_same.mpr h) fun _ _ _ hab => hab

end Thinned

namespace Render

variable {α β : Type}

/-- Whoever reads a part of a span goes on alike behind two locations with that part in common. -/
theorem span_bind_congr {view : Span → α} {l l' : Location} (hl : l.EqOn view l')
    {f f' : Span → Render β} (hf : ∀ s s', view s = view s' → f s = f' s') :
    (ofExcept l.span >>= f) = (ofExcept l'.span >>= f') := by
  rcases hl with rfl | ⟨s, s', hs, hs', hview⟩
  · -- the span of one location has every part in common with itself
    have hsame : f = f' := funext fun s => hf s s rfl
    rw [hsame]
  · rw [Location.span_of_read hs, Location.span_of_read hs']
    exact hf s s' hview

theorem writeAtStart_congr {l l' : Location} (hl : l.EqOn Span.start l') (text : String) :
    writeAtStart l text = writeAtStart l' text := by
  rw [writeAtStart, writeAtStart, hl.start_eq]

variable {reg reg' : Registry Renderer} {p : Position} {n n' : Node}

/-- Two registries make the same of two nodes: either both have a renderer or neither has, and
    what comes of it is the same. -/
structure Alike (reg reg' : Registry Renderer) (p : Position) (n n' : Node) : Prop where
  has_eq : reg.has (n.tagAt p) = reg'.has (n'.tagAt p)
  dispatchAt_eq : dispatchAt reg p n = dispatchAt reg' p n'

namespace Alike

/-- A renderer that both registries have does the same. -/
theorem of_some {r : Renderer} (h : reg.get? (n.tagAt p) = some r)
    (h' : reg'.get? (n'.tagAt p) = some r) (hr : renderWith reg r n = renderWith reg' r n') :
    Alike reg reg' p n n' := by
  refine ⟨?_, ?_⟩
  · rw [Registry.has, Registry.has, h, h']
  · rw [dispatchAt_of_some h, dispatchAt_of_some h', hr]

/-- A node for which neither registry has a renderer. -/
theorem of_none (h : reg.get? (n.tagAt p) = none) (h' : reg'.get? (n.tagAt p) = none) :
    Alike reg reg' p n n := by
  refine ⟨?_, ?_⟩
  · rw [Registry.has, Registry.has, h, h']
  · rw [dispatchAt, dispatchAt, h, h']

/-- The standard renderer of both nodes does the same to them. -/
theorem of_renderer? {r : Renderer} (h : n.renderer? p = some r) (h' : n'.renderer? p = some r)
    (hr : renderWith .standard r n = renderWith .standard r n') :
    Alike .standard .standard p n n' := by
  rw [← Registry.get?_standard_tagAt] at h h'
  exact of_some h h' hr

theorem refl (reg : Registry Renderer) (p : Position) (n : Node) : Alike reg reg p n n := ⟨rfl, rfl⟩

/-- An element of a list is looked up under its kind. -/
theorem has_kind_eq (h : Alike reg reg' .operand n n') : reg.has n.kind = reg'.has n'.kind := by
  rw [← n.tagAt_operand, ← n'.tagAt_operand]
  exact h.has_eq

end Alike

/-- A node without a renderer over which a registry passes. -/
structure Passed (reg : Registry Renderer) (p : Position) (n : Node) : Prop where
  has_eq : reg.has (n.tagAt p) = false
  dispatchAt_eq : dispatchAt reg p n = pure .ignored

/-- Type annotations without a renderer are passed over. -/
theorem Passed.of_isTypeTag (h : reg.get? (n.tagAt p) = none) (ht : isTypeTag n.kind = true) :
    Passed reg p n :=
  ⟨by rw [Registry.has, h]; rfl, dispatchAt_of_ignored h ht⟩

/-! ## Sequences -/

/-- Lists whose elements are laid out alike, if what is missing is passed over. -/
theorem listNodes_congr {ns ns' : List Node}
    (h : Thinned (Alike reg reg' .operand) (Passed reg .operand) ns ns') (sep : String)
    (started : Bool) : listNodes reg sep started ns = listNodes reg' sep started ns' := by
  -- both lists have rendered an element so far, or neither has
  induction h generalizing started with
  | nil => rw [listNodes, listNodes]
  | @keep n n' rest rest' hn _ ih =>
    have hhas := hn.has_kind_eq
    cases hk : reg.has n.kind with
    | true =>
      rw [listNodes_cons_of_has sep started rest hk,
        listNodes_cons_of_has sep started rest' (hhas ▸ hk), hn.dispatchAt_eq, ih true]
    | false =>
      rw [listNodes_cons_of_not_has sep started rest hk,
        listNodes_cons_of_not_has sep started rest' (hhas ▸ hk), hn.dispatchAt_eq, ih started]
  | @drop n rest rest' hn _ ih =>
    -- a separator is due behind a rendered element only, so none is gained or lost
    have hk : reg.has n.kind = false := by
      rw [← n.tagAt_operand]
      exact hn.has_eq
    rw [listNodes_cons_of_not_has sep started rest hk, hn.dispatchAt_eq, pure_bind,
      if_neg (by decide), ih started]

theorem walkNodes_congr {ns ns' : List Node}
    (h : Thinned (Alike reg reg' .statement) (Passed reg .statement) ns ns') :
    walkNodes reg ns = walkNodes reg' ns' := by
  induction h with
  | nil => rw [walkNodes, walkNodes]
  | keep hn _ ih => rw [walkNodes_cons, walkNodes_cons, hn.dispatchAt_eq, ih]
  | drop hn _ ih => rw [walkNodes_cons, hn.dispatchAt_eq, pure_bind, if_neg (by decide), ih]

/-- Values in front of which none is missing: the ` = ` hangs on the first. -/
theorem assignValues_cons_congr {v v' : Node} {rest rest' : List Node}
    (hv : Alike reg reg' .operand v v')
    (hrest : Thinned (Alike reg reg' .operand) (Passed reg .operand) rest rest') (t : Dispatch) :
    assignValues reg t (some (v :: rest)) = assignValues reg' t (some (v' :: rest')) := by
  have hvalues := listNodes_congr (.keep hv hrest) "," false
  rw [assignValues_some, assignValues_some, List.head?_cons, List.head?_cons, Option.any_some,
    Option.any_some, hv.has_kind_eq, hvalues]

/-! ## The renderers of the forms -/

theorem renderWith_atom_congr {l l' : Location} {a a' : Atom} (hl : l.EqOn Span.start l')
    (hform : a.form = a'.form) (hsource : a.source = a'.source) :
    renderWith reg (.native a.form) (.atom l a) = renderWith reg' (.native a.form) (.atom l' a') := by
  rw [renderWith_atom, hform, renderWith_atom, hsource, writeAtStart_congr hl]

theorem renderWith_doBlock_congr {l l' : Location} {hasEnd : Bool} {body body' : List Node}
    (hl : l.EqOn (Span.words hasEnd) l') (hbody : walkNodes reg body = walkNodes reg' body') :
    renderWith reg .doBlock (.block l hasEnd body) =
      renderWith reg' .doBlock (.block l' hasEnd body') := by
  rw [renderWith_doBlock, renderWith_doBlock, hbody]
  refine span_bind_congr hl fun s s' hview => ?_
  obtain ⟨hstart, hstop⟩ := Prod.mk.inj hview
  rw [hstart]
  -- without an `end` the two ends may differ
  cases hasEnd with
  | false => rfl
  | true =>
    have hstop : s.stop = s'.stop := Option.some.inj hstop
    rw [hstop]

theorem renderWith_block_congr {l l' : Location} {hasEnd : Bool} {body body' : List Node}
    (hbody : walkNodes reg body = walkNodes reg' body') :
    renderWith reg (.native .block) (.block l hasEnd body) =
      renderWith reg' (.native .block) (.block l' hasEnd body') := by
  rw [renderWith_block, renderWith_block, hbody]

theorem renderWith_localDecl_congr {l l' : Location} {targets targets' : List Node}
    {values values' : Option (List Node)} (hl : l.EqOn Span.start l')
    (ht : listNodes reg "," false targets = listNodes reg' "," false targets')
    (hv : ∀ t, assignValues reg t values = assignValues reg' t values') :
    renderWith reg (.native .localDecl) (.localDecl l targets values) =
      renderWith reg' (.native .localDecl) (.localDecl l' targets' values') := by
  rw [renderWith_localDecl, renderWith_localDecl, writeAtStart_congr hl, ht]
  simp only [hv]

theorem renderWith_assign_congr {l l' : Location} {targets targets' : List Node}
    {values values' : Option (List Node)}
    (ht : listNodes reg "," false targets = listNodes reg' "," false targets')
    (hv : ∀ t, assignValues reg t values = assignValues reg' t values') :
    renderWith reg (.native .assign) (.assign l targets values) =
      renderWith reg' (.native .assign) (.assign l' targets' values') := by
  rw [renderWith_assign, renderWith_assign, ht]
  simp only [hv]

theorem renderWith_ret_congr {l l' : Location} {values values' : List Node}
    (hl : l.EqOn Span.start l')
    (hv : listNodes reg "," false values = listNodes reg' "," false values') :
    renderWith reg (.native .ret) (.ret l values) =
      renderWith reg' (.native .ret) (.ret l' values') := by
  rw [renderWith_ret, renderWith_ret, writeAtStart_congr hl, hv]

theorem renderWith_exprStat_congr {l l' : Location} {e e' : Node}
    (he : dispatchAt reg .operand e = dispatchAt reg' .operand e') :
    renderWith reg (.native .exprStat) (.exprStat l e) =
      renderWith reg' (.native .exprStat) (.exprStat l' e') := by
  rw [renderWith_exprStat, renderWith_exprStat, he]

theorem renderWith_indexName_congr {l l' : Location} {base base' : Node} {name : String}
    {nl nl' : Option Location} {op : Option String}
    (hbase : dispatchAt reg .operand base = dispatchAt reg' .operand base')
    (hnl : Option.Rel (Location.EqOn Span.start) nl nl') :
    renderWith reg (.native .indexName) (.indexName l base name nl op) =
      renderWith reg' (.native .indexName) (.indexName l' base' name nl' op) := by
  rw [renderWith_indexName, renderWith_indexName, hbase]
  cases hnl with
  | none => rfl
  | some hl => simp only [writeAtStart_congr hl]

theorem renderWith_group_congr {l l' : Location} {e e' : Node} (hl : l.EqOn Span.parentheses l')
    (he : dispatchAt reg .operand e = dispatchAt reg' .operand e') :
    renderWith reg (.native .group) (.group l e) =
      renderWith reg' (.native .group) (.group l' e') := by
  rw [renderWith_group, renderWith_group, he]
  refine span_bind_congr hl fun s s' hview => ?_
  obtain ⟨hstart, hlast⟩ := Prod.mk.inj hview
  rw [hstart, hlast]

theorem renderWith_call_congr {l l' : Location} {callee callee' : Node} {args args' : List Node}
    (hl : l.EqOn Span.last l')
    (hcallee : dispatchAt reg .operand callee = dispatchAt reg' .operand callee')
    (hargs : listNodes reg "," false args = listNodes reg' "," false args') :
    renderWith reg (.native .call) (.call l callee args) =
      renderWith reg' (.native .call) (.call l' callee' args') := by
  rw [renderWith_call, renderWith_call, hcallee, hargs]
  exact span_bind_congr hl fun s s' hlast => by rw [hlast]

theorem renderWith_unary_congr {l l' : Location} {op : String} {e e' : Node}
    (hl : l.EqOn Span.start l')
    (he : dispatchAt reg .operand e = dispatchAt reg' .operand e') :
    renderWith reg (.native .unary) (.unary l op e) =
      renderWith reg' (.native .unary) (.unary l' op e') := by
  rw [renderWith_unary, renderWith_unary, writeAtStart_congr hl, he]

theorem renderWith_binary_congr {l l' : Location} {op : String} {left left' right right' : Node}
    (hleft : dispatchAt reg .operand left = dispatchAt reg' .operand left')
    (hright : dispatchAt reg .operand right = dispatchAt reg' .operand right') :
    renderWith reg (.native .binary) (.binary l op left right) =
      renderWith reg' (.native .binary) (.binary l' op left' right') := by
  rw [renderWith_binary, renderWith_binary, hleft, hright]

end Render

/-- Documents over which the walks are the same are laid out alike, with the same reports. -/
theorem reconstruct_congr {reg reg' : Registry Renderer} {b b' : Block}
    (h : Render.walk reg b = Render.walk reg' b') : reconstruct reg b = reconstruct reg' b' := by
  rw [reconstruct, reconstruct, h]

end LuauLayout
