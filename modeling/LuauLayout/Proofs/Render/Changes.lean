/-
  LuauLayout.Proofs.Render.Changes

  A registry after any run of changes.

  A registry is kept as an ascending list of entries, and each change restores
  that order, so that no tag occurs twice. What is registered under a tag is
  decided by the last change to this tag alone, since a change leaves every other
  tag as it is.

    * `Change`, `Registry.changed` — registrations and removals, in any order.
    * `Change.IsLeft`              — what a run of changes leaves under a tag.
    * `Registry.get?_change`, `Registry.get?_changed` — one change, and a run.
    * `Registry.list_ascending`    — the tags are listed in the order of their
      bytes.
    * `Registry.changed_isMap`     — after any run a registry is a finite map, and
      what it lists are the tags of this map.
-/

import LuauLayout.Proofs.Text.ByteOrder
import LuauLayout.Render.Registry

namespace LuauLayout

/-- A change to a registry. -/
inductive Change (ρ : Type) where
  /-- Puts an entry under a tag, in place of any other. -/
  | register (kind : String) (x : ρ)
  /-- Drops the entry under a tag. -/
  | remove (kind : String)

namespace Change

variable {ρ : Type}

/-- The tag that is changed. -/
def kind : Change ρ → String
  | .register kind _ => kind
  | .remove kind => kind

/-- What is registered under this tag afterwards. -/
def outcome? : Change ρ → Option ρ
  | .register _ x => some x
  | .remove _ => none

/-- A change leaves an entry exactly if it registers it. -/
theorem outcome?_eq_some_iff {c : Change ρ} {k : String} {x : ρ} (h : k = c.kind) :
    c.outcome? = some x ↔ c = .register k x := by
  subst h
  cases c with
  | register kind y => simp [outcome?, Change.kind]
  | remove kind => simp [outcome?]

/-- An entry is left under a tag by its last registration if no change to the tag comes behind
    that, or it was there before and no change is to the tag. -/
def IsLeft (changes : List (Change ρ)) (k : String) (old : Option ρ) (x : ρ) : Prop :=
  (∃ before after, changes = before ++ .register k x :: after ∧ ∀ c ∈ after, c.kind ≠ k) ∨
    (∀ c ∈ changes, c.kind ≠ k) ∧ old = some x

theorem isLeft_nil {k : String} {old : Option ρ} {x : ρ} :
    IsLeft [] k old x ↔ old = some x := by
  simp [IsLeft]

/-- The changes behind the first start from what that has left. -/
theorem isLeft_cons {c : Change ρ} {rest : List (Change ρ)} {k : String} {old : Option ρ} {x : ρ} :
    IsLeft (c :: rest) k old x ↔ IsLeft rest k (if k = c.kind then c.outcome? else old) x := by
  constructor
  · rintro (⟨before, after, hsplit, hafter⟩ | ⟨hnone, hold⟩)
    · obtain ⟨rfl, hrest⟩ | ⟨before, rfl, hrest⟩ := List.cons_eq_append_iff.mp hsplit
      · -- the first change is the registration itself
        cases hrest
        exact .inr ⟨hafter, if_pos rfl⟩
      · exact .inl ⟨before, after, hrest, hafter⟩
    · obtain ⟨hc, hrest⟩ := List.forall_mem_cons.mp hnone
      exact .inr ⟨hrest, by rw [if_neg (Ne.symm hc), hold]⟩
  · rintro (⟨before, after, rfl, hafter⟩ | ⟨hrest, hold⟩)
    · exact .inl ⟨c :: before, after, rfl, hafter⟩
    · by_cases hk : k = c.kind
      · rw [if_pos hk, outcome?_eq_some_iff hk] at hold
        exact .inl ⟨[], rest, by rw [hold, List.nil_append], hrest⟩
      · rw [if_neg hk] at hold
        exact .inr ⟨List.forall_mem_cons.mpr ⟨Ne.symm hk, hrest⟩, hold⟩

end Change

namespace Registry

variable {ρ : Type}

/-- The registry after a change. -/
def change (r : Registry ρ) : Change ρ → Registry ρ
  | .register kind x => r.register kind x
  | .remove kind => (r.take kind).2

/-- The registry after changes, one after the other. -/
def changed (r : Registry ρ) (changes : List (Change ρ)) : Registry ρ := changes.foldl change r

/-! ## What is registered -/

/-- A change decides what is registered under its tag, and nothing else. -/
theorem get?_change (r : Registry ρ) (c : Change ρ) (k : String) :
    (r.change c).get? k = if k = c.kind then c.outcome? else r.get? k := by
  cases c with
  | register kind x => exact get?_register r kind x k
  | remove kind =>
    show (r.take kind).2.get? k = _
    rw [take_eq]
    exact get?_remove r kind k

/-- By the changes, each starting from the registry that the one before has left. -/
theorem get?_changed (r : Registry ρ) (changes : List (Change ρ)) (k : String) (x : ρ) :
    (r.changed changes).get? k = some x ↔ Change.IsLeft changes k (r.get? k) x := by
  induction changes generalizing r with
  | nil => exact Change.isLeft_nil.symm
  | cons c rest ih =>
    show ((r.change c).changed rest).get? k = some x ↔ _
    rw [ih, get?_change, Change.isLeft_cons]

/-! ## What is listed -/

/-- The bytes of the tags ascend strictly, so that no tag is listed twice. -/
theorem list_ascending (r : Registry ρ) :
    r.list.Pairwise fun a b => Text.bytes a < Text.bytes b := by
  rw [list, List.pairwise_map]
  exact r.ordered.imp fun hlt => Text.bytes_lt_bytes_iff.mpr hlt

theorem size_eq_length_list (r : Registry ρ) : r.size = r.list.length := by
  rw [size, list, List.length_map]

theorem isEmpty_iff_list_eq_nil (r : Registry ρ) : r.isEmpty = true ↔ r.list = [] := by
  rw [isEmpty, List.isEmpty_iff, list, List.map_eq_nil_iff]

/-! ## After a run -/

/-- After any changes to any registry, a tag has the entry that the changes have left under it and
    no other; a removal tells this entry and leaves every other tag alone; and the tags that have
    an entry are listed in the order of their bytes, each once. -/
theorem changed_isMap (start : Registry ρ) (changes : List (Change ρ)) :
    let r := start.changed changes
    (∀ k x, r.get? k = some x ↔ Change.IsLeft changes k (start.get? k) x) ∧
    (∀ k, r.has k = true ↔ ∃ x, r.get? k = some x) ∧
    (∀ k, (r.take k).1 = r.get? k ∧
      ∀ j, (r.take k).2.get? j = if j = k then none else r.get? j) ∧
    r.list.Pairwise (fun a b => Text.bytes a < Text.bytes b) ∧
    (∀ k, k ∈ r.list ↔ r.has k = true) ∧
    r.size = r.list.length ∧
    (r.isEmpty = true ↔ r.list = []) := by
  intro r
  refine ⟨get?_changed start changes, fun k => has_eq_true_iff, fun k => ?_, list_ascending r,
    fun k => has_iff_mem_list.symm, size_eq_length_list r, isEmpty_iff_list_eq_nil r⟩
  rw [take_eq]
  exact ⟨rfl, get?_remove r k⟩

/-- A tag that is dropped and registered again has its last entry, and stands in its place. -/
example :
    let r := (empty : Registry Nat).changed
      [.register "b" 1, .register "é" 2, .remove "b", .register "a" 3, .register "b" 4]
    r.list = ["a", "b", "é"] ∧ r.get? "b" = some 4 := by decide

end Registry
end LuauLayout
