/-
  LuauLayout.Proofs.Json.Shape

  JSON values as trees.

    * `Json.induct`        — induction along the values, with one hypothesis for
      the items of a list and one for the members of an object.
    * `Json.inductObjects` — induction along the objects, where a list among the
      members of an object counts as its items.
-/

import LuauLayout.Json.Reader

namespace LuauLayout
namespace Json

/-- Induction along the values. -/
@[elab_as_elim]
theorem induct {motive : Json → Prop}
    (null : motive .null)
    (bool : ∀ b, motive (.bool b))
    (number : ∀ n, motive (.number n))
    (text : ∀ s, motive (.text s))
    (list : ∀ items, (∀ v ∈ items, motive v) → motive (.list items))
    (object : ∀ members, (∀ e ∈ members, motive e.2) → motive (.object members)) :
    ∀ v, motive v := by
  apply @Json.rec motive (fun items => ∀ v ∈ items, motive v)
    (fun members => ∀ e ∈ members, motive e.2) (fun e => motive e.2)
    null bool number text list object
  -- what items and members hold
  · exact List.forall_mem_nil _
  · exact fun v rest hv hrest => List.forall_mem_cons.mpr ⟨hv, hrest⟩
  · exact List.forall_mem_nil _
  · exact fun e rest he hrest => List.forall_mem_cons.mpr ⟨he, hrest⟩
  · exact fun key v hv => hv

/-- Induction along the objects. The members of an object are below it, and so are the items of
    the lists among them. -/
@[elab_as_elim]
theorem inductObjects {motive : Json → Prop}
    (other : ∀ v, (∀ members, v ≠ .object members) → motive v)
    (object : ∀ members, (∀ e ∈ members, motive e.2) →
      (∀ e ∈ members, ∀ items, e.2 = .list items → ∀ v ∈ items, motive v) →
      motive (.object members)) :
    ∀ v, motive v := by
  -- the items of a list are below the object only by way of the list, so they are carried along
  have hboth : ∀ v, motive v ∧ ∀ items, v = .list items → ∀ w ∈ items, motive w := by
    intro v
    induction v using induct with
    | list items ih =>
      refine ⟨other _ fun _ => Json.noConfusion, ?_⟩
      intro items' h w hw
      cases h
      exact (ih w hw).1
    | object members ih =>
      refine ⟨object members (fun e he => (ih e he).1) fun e he => (ih e he).2, ?_⟩
      intro items h
      cases h
    | null => exact ⟨other _ fun _ => Json.noConfusion, fun _ => Json.noConfusion⟩
    | bool b => exact ⟨other _ fun _ => Json.noConfusion, fun _ => Json.noConfusion⟩
    | number n => exact ⟨other _ fun _ => Json.noConfusion, fun _ => Json.noConfusion⟩
    | text s => exact ⟨other _ fun _ => Json.noConfusion, fun _ => Json.noConfusion⟩
  exact fun v => (hboth v).1

end Json

namespace SortedMap

/-- What is found stands in the map. -/
theorem mem_of_lookup? {β : Type} {k : String} {v : β} {m : List (String × β)}
    (h : lookup? k m = some v) : (k, v) ∈ m := by
  induction m with
  | nil => cases h
  | cons e rest ih =>
    obtain ⟨k', v'⟩ := e
    rw [lookup?] at h
    split at h
    · rename_i hk
      cases h
      exact hk ▸ List.mem_cons_self
    · exact List.mem_cons_of_mem _ (ih h)

/-- A key above all others goes to the end. -/
theorem insert_eq_concat {β : Type} {k : String} {v : β} {m : List (String × β)}
    (h : Ordered (m ++ [(k, v)])) : insert k v m = m ++ [(k, v)] := by
  induction m with
  | nil => rfl
  | cons e rest ih =>
    obtain ⟨k', v'⟩ := e
    obtain ⟨habove, hrest⟩ := List.pairwise_cons.mp h
    have hlt : k' < k := habove (k, v) (List.mem_append_right _ List.mem_cons_self)
    have hne : k ≠ k' := by
      rintro rfl
      exact String.lt_irrefl k hlt
    rw [insert, if_neg (String.lt_asymm hlt), if_neg hne, ih hrest]
    rfl

end SortedMap
end LuauLayout
