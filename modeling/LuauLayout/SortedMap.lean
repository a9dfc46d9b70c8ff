/-
  LuauLayout.SortedMap

  Finite maps from strings, as association lists in ascending key order.

  Both the members of a JSON object and the entries of a renderer registry are
  kept this way, so that the order in which they are listed is the order of
  their keys (by code point, which is also the order of their UTF-8 bytes).

    * `insert k v m` — `m` with `k` bound to `v`, replacing any old binding.
    * `lookup? k m`  — the value bound to `k`.
    * `erase k m`    — `m` without `k`.
    * `extract k m`  — the value bound to `k`, and `m` without it, in one pass.
    * `Ordered m`    — the keys ascend strictly, hence no key occurs twice.

  The reading lemmas (`lookup?_insert`, `lookup?_erase`) hold for the maps that
  are `Ordered`, and the operations keep maps so.
-/

namespace LuauLayout
namespace SortedMap

variable {β γ : Type}

/-- Binds `k` to `v` in an ascending list, replacing an existing entry. -/
def insert (k : String) (v : β) : List (String × β) → List (String × β)
  | [] => [(k, v)]
  | (k', v') :: rest =>
    if k < k' then (k, v) :: (k', v') :: rest
    else if k = k' then (k, v) :: rest
    else (k', v') :: insert k v rest

/-- The value bound to `k`: that of the first entry under this key. -/
def lookup? (k : String) : List (String × β) → Option β
  | [] => none
  | (k', v') :: rest => if k = k' then some v' else lookup? k rest

/-- Drops every entry under `k`. -/
def erase (k : String) : List (String × β) → List (String × β)
  | [] => []
  | (k', v') :: rest => if k = k' then erase k rest else (k', v') :: erase k rest

/-- Takes the first entry under `k` out: its value, and the entries that are left. -/
def extract (k : String) : List (String × β) → Option β × List (String × β)
  | [] => (none, [])
  | (k', v') :: rest =>
    if k = k' then (some v', rest)
    else
      let (v?, left) := extract k rest
      (v?, (k', v') :: left)

/-- The keys ascend strictly. -/
def Ordered (m : List (String × β)) : Prop :=
  m.Pairwise (fun a b => a.1 < b.1)

/-! ## Reading a changed map -/

theorem lookup?_insert_self (k : String) (v : β) (m : List (String × β)) :
    lookup? k (insert k v m) = some v := by
  induction m with
  | nil => simp [insert, lookup?]
  | cons e rest ih =>
    obtain ⟨k', v'⟩ := e
    rw [insert]
    split
    · simp [lookup?]
    · split
      · simp [lookup?]
      · rename_i hne
        simp [lookup?, hne, ih]

theorem lookup?_insert_of_ne {k j : String} (h : j ≠ k) (v : β) (m : List (String × β)) :
    lookup? j (insert k v m) = lookup? j m := by
  induction m with
  | nil => simp [insert, lookup?, h]
  | cons e rest ih =>
    obtain ⟨k', v'⟩ := e
    rw [insert]
    split
    · simp [lookup?, h]
    · split
      · rename_i heq
        subst heq
        simp [lookup?, h]
      · simp [lookup?, ih]

theorem lookup?_erase (k j : String) (m : List (String × β)) :
    lookup? j (erase k m) = if j = k then none else lookup? j m := by
  induction m with
  | nil => simp [erase, lookup?]
  | cons e rest ih =>
    obtain ⟨k', v'⟩ := e
    by_cases hk : k = k'
    · subst hk
      by_cases hj : j = k
      · subst hj
        simp [erase, ih]
      · simp [erase, lookup?, ih, hj]
    · by_cases hj : j = k
      · subst hj
        simp [erase, lookup?, ih, hk]
      · simp [erase, lookup?, ih, hk, hj]

theorem exists_lookup?_iff {k : String} {m : List (String × β)} :
    (∃ v, lookup? k m = some v) ↔ k ∈ m.map (·.1) := by
  induction m with
  | nil => simp [lookup?]
  | cons e rest ih =>
    obtain ⟨k', v'⟩ := e
    rw [List.map_cons, List.mem_cons, ← ih, lookup?]
    by_cases hk : k = k'
    · simp [hk]
    · simp [hk]

/-! ## Order -/

theorem ordered_nil : Ordered ([] : List (String × β)) := List.Pairwise.nil

theorem mem_insert {k : String} {v : β} {e : String × β} {m : List (String × β)} :
    e ∈ insert k v m → e = (k, v) ∨ e ∈ m := by
  induction m with
  | nil => simp [insert]
  | cons e' rest ih =>
    obtain ⟨k', v'⟩ := e'
    rw [insert]
    split
    · simp
    · split
      · intro h
        rcases List.mem_cons.mp h with h | h
        · exact .inl h
        · exact .inr (List.mem_cons_of_mem _ h)
      · intro h
        rcases List.mem_cons.mp h with h | h
        · exact .inr (by simp [h])
        · exact (ih h).imp id (List.mem_cons_of_mem _)

theorem mem_erase {k : String} {e : String × β} {m : List (String × β)} :
    e ∈ erase k m → e ∈ m := by
  induction m with
  | nil => simp [erase]
  | cons e' rest ih =>
    obtain ⟨k', v'⟩ := e'
    rw [erase]
    split
    · exact fun h => List.mem_cons_of_mem _ (ih h)
    · intro h
      rcases List.mem_cons.mp h with h | h
      · simp [h]
      · exact List.mem_cons_of_mem _ (ih h)

/-- Of two different keys one precedes the other. -/
theorem lt_of_not_lt {k j : String} (h : ¬ k < j) (hne : k ≠ j) : j < k :=
  Std.lt_of_le_of_ne (String.not_lt.mp h) (Ne.symm hne)

theorem ordered_insert (k : String) (v : β) {m : List (String × β)} (h : Ordered m) :
    Ordered (insert k v m) := by
  induction m with
  | nil => simp [insert, Ordered]
  | cons e rest ih =>
    obtain ⟨k', v'⟩ := e
    have hd := List.pairwise_cons.mp h
    rw [insert]
    split
    · rename_i hlt
      refine List.pairwise_cons.mpr ⟨fun e' he' => ?_, h⟩
      rcases List.mem_cons.mp he' with rfl | he'
      · exact hlt
      · exact String.lt_trans hlt (hd.1 e' he')
    · split
      · rename_i heq
        subst heq
        exact List.pairwise_cons.mpr ⟨fun e' he' => hd.1 e' he', hd.2⟩
      · rename_i hlt hne
        refine List.pairwise_cons.mpr ⟨fun e' he' => ?_, ih hd.2⟩
        rcases mem_insert he' with rfl | he'
        · exact lt_of_not_lt hlt hne
        · exact hd.1 e' he'

theorem ordered_erase (k : String) {m : List (String × β)} (h : Ordered m) :
    Ordered (erase k m) := by
  induction m with
  | nil => exact List.Pairwise.nil
  | cons e rest ih =>
    obtain ⟨k', v'⟩ := e
    have hd := List.pairwise_cons.mp h
    rw [erase]
    split
    · exact ih hd.2
    · exact List.pairwise_cons.mpr ⟨fun e' he' => hd.1 e' (mem_erase he'), ih hd.2⟩

/-- There is nothing to drop under a key that does not occur. -/
theorem erase_of_forall_ne {k : String} {m : List (String × β)} (h : ∀ e ∈ m, k ≠ e.1) :
    erase k m = m := by
  induction m with
  | nil => rfl
  | cons e rest ih =>
    obtain ⟨hne, hrest⟩ := List.forall_mem_cons.mp h
    rw [erase, if_neg hne, ih hrest]

/-- In a map the first entry under a key is the only one. -/
theorem extract_eq (k : String) {m : List (String × β)} (h : Ordered m) :
    extract k m = (lookup? k m, erase k m) := by
  induction m with
  | nil => rfl
  | cons e rest ih =>
    obtain ⟨k', v'⟩ := e
    obtain ⟨hlt, hrest⟩ := List.pairwise_cons.mp h
    rw [extract, lookup?, erase]
    by_cases hk : k = k'
    · -- the keys behind it are greater
      subst hk
      have hne : ∀ e' ∈ rest, k ≠ e'.1 := by
        rintro e' he' rfl
        exact String.lt_irrefl _ (hlt e' he')
      rw [if_pos rfl, if_pos rfl, if_pos rfl, erase_of_forall_ne hne]
    · rw [if_neg hk, if_neg hk, if_neg hk, ih hrest]

/-- Changing the values alone keeps the order. -/
theorem ordered_map (f : β → γ) {m : List (String × β)} (h : Ordered m) :
    Ordered (m.map fun e => (e.1, f e.2)) :=
  List.pairwise_map.mpr h

theorem lookup?_map (f : β → γ) (k : String) (m : List (String × β)) :
    lookup? k (m.map fun e => (e.1, f e.2)) = (lookup? k m).map f := by
  induction m with
  | nil => rfl
  | cons e rest ih =>
    obtain ⟨k', v'⟩ := e
    by_cases h : k = k' <;> simp [lookup?, h, ih]

end SortedMap
end LuauLayout
