/-
  LuauLayout.Proofs.Json.Reading

  What the reader makes of tokens.

    * `Json.IsDelivered` — the values that a reader can deliver: objects have
      their members in order, nesting is bounded, and the numbers are among those
      of the tokens. `isDelivered_of_parse?`: every value that is read is one.
    * `Json.tokens`      — the tokens of a value. `ofTokens?_tokens`: a value that
      can be delivered is read back from its tokens.
    * `Json.IsPartOf`    — the values inside a value; a part of what can be
      delivered can be delivered.
-/

import LuauLayout.Proofs.Json.Scanning

namespace LuauLayout
namespace Json

/-! ## Parts -/

/-- A value and the values inside it. -/
inductive IsPartOf (w : Json) : Json → Prop
  | refl : IsPartOf w w
  | item {items : List Json} {v : Json} : v ∈ items → IsPartOf w v → IsPartOf w (.list items)
  | member {members : List (String × Json)} {e : String × Json} :
    e ∈ members → IsPartOf w e.2 → IsPartOf w (.object members)

/-! ## Values that can be delivered -/

/-- At most `depth` lists and objects are open at once while the value is read, the members of
    its objects stand in order, and its numbers have the property `P`. -/
inductive IsDelivered (P : JsonNumber → Prop) : Nat → Json → Prop
  | null (depth : Nat) : IsDelivered P depth .null
  | bool (depth : Nat) (b : Bool) : IsDelivered P depth (.bool b)
  | number (depth : Nat) {n : JsonNumber} : P n → IsDelivered P depth (.number n)
  | text (depth : Nat) (s : String) : IsDelivered P depth (.text s)
  | list {depth : Nat} {items : List Json} : (∀ v ∈ items, IsDelivered P depth v) →
    IsDelivered P (depth + 1) (.list items)
  | object {depth : Nat} {members : List (String × Json)} : SortedMap.Ordered members →
    (∀ e ∈ members, IsDelivered P depth e.2) → IsDelivered P (depth + 1) (.object members)

variable {P : JsonNumber → Prop} {v w : Json} {depth : Nat}

namespace IsDelivered

theorem succ (h : IsDelivered P depth v) : IsDelivered P (depth + 1) v := by
  induction h with
  | null => exact .null _
  | bool => exact .bool _ _
  | number _ hn => exact .number _ hn
  | text => exact .text _ _
  | list _ ih => exact .list ih
  | object hordered _ ih => exact .object hordered ih

theorem mono {depth' : Nat} (h : IsDelivered P depth v) (hle : depth ≤ depth') :
    IsDelivered P depth' v := by
  induction hle with
  | refl => exact h
  | step _ ih => exact ih.succ

/-- The parts of a value are nested no deeper than the value. -/
theorem part (h : IsDelivered P depth v) (hw : w.IsPartOf v) : IsDelivered P depth w := by
  induction hw generalizing depth with
  | refl => exact h
  | item hv _ ih =>
    cases h with
    | list hitems => exact (ih (hitems _ hv)).succ
  | member he _ ih =>
    cases h with
    | object _ hmembers => exact (ih (hmembers _ he)).succ

end IsDelivered

/-! ## The reader keeps to them -/

namespace Frame

/-- What an open list or object holds so far, given how deep it may be nested. -/
def IsDelivered (P : JsonNumber → Prop) (depth : Nat) : Frame → Prop
  | .list items => ∀ v ∈ items, Json.IsDelivered P depth v
  | .object members _ =>
    SortedMap.Ordered members ∧ ∀ e ∈ members, Json.IsDelivered P depth e.2

theorem isDelivered_cons {items : List Json}
    (h : (Frame.list items).IsDelivered P depth) (hv : Json.IsDelivered P depth v) :
    (Frame.list (v :: items)).IsDelivered P depth :=
  List.forall_mem_cons.mpr ⟨hv, h⟩

theorem isDelivered_insert {members : List (String × Json)} {key : String}
    (h : (Frame.object members key).IsDelivered P depth) (hv : Json.IsDelivered P depth v)
    (next : String) : (Frame.object (SortedMap.insert key v members) next).IsDelivered P depth := by
  obtain ⟨hordered, hmembers⟩ := h
  refine ⟨SortedMap.ordered_insert _ _ hordered, fun e he => ?_⟩
  obtain rfl | he := SortedMap.mem_insert he
  · exact hv
  · exact hmembers e he

end Frame

/-- What all the open lists and objects hold so far; the deeper a frame, the less room is left
    in it. -/
def IsStack (P : JsonNumber → Prop) : List Frame → Prop
  | [] => True
  | f :: stack =>
    stack.length < maxDepth ∧ f.IsDelivered P (maxDepth - (stack.length + 1)) ∧ IsStack P stack

namespace Reader

/-- What the reader holds so far can be delivered. -/
def IsDelivered (P : JsonNumber → Prop) : Reader → Prop
  | .value stack => IsStack P stack
  | .firstItem stack => IsStack P (.list [] :: stack)
  | .firstKey stack => IsStack P (.object [] "" :: stack)
  | .key members stack => IsStack P (.object members "" :: stack)
  | .colon members k stack => IsStack P (.object members k :: stack)
  | .after v stack => Json.IsDelivered P (maxDepth - stack.length) v ∧ IsStack P stack

theorem isDelivered_takeValue? {stack : List Frame} {t : Token} {r : Reader}
    (hstack : IsStack P stack) (ht : ∀ n, t = .number n → P n) (h : takeValue? stack t = some r) :
    r.IsDelivered P := by
  cases t with
  | null =>
    cases h
    exact ⟨.null _, hstack⟩
  | bool b =>
    cases h
    exact ⟨.bool _ b, hstack⟩
  | number n =>
    cases h
    exact ⟨.number _ (ht n rfl), hstack⟩
  | text s =>
    cases h
    exact ⟨.text _ s, hstack⟩
  | openBracket =>
    rw [takeValue?, Option.ite_none_right_eq_some] at h
    obtain ⟨hlt, h⟩ := h
    cases h
    exact ⟨hlt, List.forall_mem_nil _, hstack⟩
  | openBrace =>
    rw [takeValue?, Option.ite_none_right_eq_some] at h
    obtain ⟨hlt, h⟩ := h
    cases h
    exact ⟨hlt, ⟨.nil, List.forall_mem_nil _⟩, hstack⟩
  | closeBrace => cases h
  | closeBracket => cases h
  | comma => cases h
  | colon => cases h

/-- A complete value joins the list or the object around it. -/
theorem isDelivered_takeAfter? {v : Json} {stack : List Frame} {t : Token} {r : Reader}
    (hv : Json.IsDelivered P (maxDepth - stack.length) v) (hstack : IsStack P stack)
    (h : takeAfter? v stack t = some r) : r.IsDelivered P := by
  -- what has been closed is nested one level less deep than what it holds
  have hdepth : ∀ rest : List Frame, rest.length < maxDepth →
      maxDepth - rest.length = maxDepth - (rest.length + 1) + 1 := by omega
  unfold takeAfter? at h
  split at h
  · -- the next item
    cases h
    obtain ⟨hlt, hitems, hrest⟩ := hstack
    exact ⟨hlt, Frame.isDelivered_cons hitems hv, hrest⟩
  · -- the end of a list
    cases h
    obtain ⟨hlt, hitems, hrest⟩ := hstack
    refine ⟨?_, hrest⟩
    rw [hdepth _ hlt]
    exact .list fun w hw => Frame.isDelivered_cons hitems hv w (List.mem_reverse.mp hw)
  · -- the next member
    cases h
    obtain ⟨hlt, hmembers, hrest⟩ := hstack
    exact ⟨hlt, Frame.isDelivered_insert hmembers hv "", hrest⟩
  · -- the end of an object
    cases h
    obtain ⟨hlt, hmembers, hrest⟩ := hstack
    refine ⟨?_, hrest⟩
    rw [hdepth _ hlt]
    obtain ⟨hordered, hmembers⟩ := Frame.isDelivered_insert hmembers hv ""
    exact .object hordered hmembers
  · cases h

/-- One token keeps what the reader holds deliverable. -/
theorem isDelivered_step {r r' : Reader} {t : Token} (hr : r.IsDelivered P)
    (ht : ∀ n, t = .number n → P n) (h : r.step t = some r') : r'.IsDelivered P := by
  unfold step at h
  split at h
  · exact isDelivered_takeValue? hr ht h
  · -- an empty list
    rename_i stack
    cases h
    have hpos : 0 + 1 ≤ maxDepth - stack.length := by have := hr.1; omega
    exact ⟨.mono (.list (List.forall_mem_nil _)) hpos, hr.2.2⟩
  · exact isDelivered_takeValue? hr ht h
  · -- an empty object
    rename_i stack
    cases h
    have hpos : 0 + 1 ≤ maxDepth - stack.length := by have := hr.1; omega
    exact ⟨.mono (.object .nil (List.forall_mem_nil _)) hpos, hr.2.2⟩
  · -- the first key
    cases h
    exact hr
  · cases h
  · -- another key
    cases h
    exact hr
  · cases h
  · -- the colon behind a key
    cases h
    exact hr
  · cases h
  · exact isDelivered_takeAfter? hr.1 hr.2 h

theorem isDelivered_foldlM {r r' : Reader} {ts : List Token} (hr : r.IsDelivered P)
    (hts : ∀ n, .number n ∈ ts → P n) (h : ts.foldlM step r = some r') : r'.IsDelivered P := by
  induction ts generalizing r with
  | nil =>
    cases h
    exact hr
  | cons t ts ih =>
    rw [List.foldlM_cons] at h
    obtain ⟨r₁, hr₁, h⟩ := Option.bind_eq_some_iff.mp h
    refine ih (isDelivered_step hr ?_ hr₁) (fun n hn => hts n (List.mem_cons_of_mem t hn)) h
    rintro n rfl
    exact hts n List.mem_cons_self

end Reader

/-- The value that tokens stand for has their numbers. -/
theorem isDelivered_of_ofTokens? {ts : List Token} (h : ofTokens? ts = some v)
    (hts : ∀ n, .number n ∈ ts → P n) : IsDelivered P maxDepth v := by
  obtain ⟨r, hr, hfinish⟩ := Option.bind_eq_some_iff.mp h
  have hdelivered : r.IsDelivered P :=
    Reader.isDelivered_foldlM (r := .value []) trivial hts hr
  unfold Reader.finish at hfinish
  split at hfinish <;> cases hfinish
  exact hdelivered.1

/-- The value that a text stands for has the numbers that its numerals stand for. -/
theorem isDelivered_of_parse? {text : String} (h : parse? text = some v)
    (hP : ∀ cs ∈ numerals text, ∀ n, Scan.numeralToken? cs = some (.number n) → P n) :
    IsDelivered P maxDepth v := by
  obtain ⟨ts, hts, hv⟩ := Option.bind_eq_some_iff.mp h
  refine isDelivered_of_ofTokens? hv fun n hn => ?_
  obtain ⟨cs, hcs, hnumeral⟩ := exists_numeral_of_mem hts hn
  exact hP cs hcs n hnumeral

/-! ## The tokens of a value -/

mutual

/-- The tokens that a value is written with. -/
def tokens : Json → List Token
  | .null => [.null]
  | .bool b => [.bool b]
  | .number n => [.number n]
  | .text s => [.text s]
  | .list [] => [.openBracket, .closeBracket]
  | .list (item :: rest) => .openBracket :: (item.tokens ++ itemTokens rest)
  | .object [] => [.openBrace, .closeBrace]
  | .object ((key, value) :: rest) =>
    .openBrace :: .text key :: .colon :: (value.tokens ++ memberTokens rest)

/-- The items after the first, each behind a comma, and the closing bracket. -/
def itemTokens : List Json → List Token
  | [] => [.closeBracket]
  | item :: rest => .comma :: (item.tokens ++ itemTokens rest)

/-- The members after the first, each behind a comma, and the closing brace. -/
def memberTokens : List (String × Json) → List Token
  | [] => [.closeBrace]
  | (key, value) :: rest =>
    .comma :: .text key :: .colon :: (value.tokens ++ memberTokens rest)

end

open Reader

/-- Wherever there is room for it, the value is read back from its tokens. -/
def IsReadBack (depth : Nat) (v : Json) : Prop :=
  ∀ stack : List Frame, stack.length + depth ≤ maxDepth →
    v.tokens.foldlM step (.value stack) = some (.after v stack)

/-- The first item of a list is read like any value. -/
theorem foldlM_firstItem (v : Json) (stack : List Frame) :
    v.tokens.foldlM step (.firstItem stack) = v.tokens.foldlM step (.value (.list [] :: stack)) := by
  cases v with
  | null => rfl
  | bool b => rfl
  | number n => rfl
  | text s => rfl
  | list items => cases items <;> rfl
  | object members => cases members <;> rfl

/-- The items behind a first one. -/
theorem foldlM_itemTokens {rest : List Json} (hrest : ∀ w ∈ rest, IsReadBack depth w)
    (v : Json) (items : List Json) {stack : List Frame}
    (hdepth : stack.length + (depth + 1) ≤ maxDepth) :
    (itemTokens rest).foldlM step (.after v (.list items :: stack)) =
      some (.after (.list (items.reverse ++ v :: rest)) stack) := by
  induction rest generalizing v items with
  | nil => simp [itemTokens, step, takeAfter?]
  | cons w rest ih =>
    obtain ⟨hw, hrest⟩ := List.forall_mem_cons.mp hrest
    have hread : w.tokens.foldlM step (.value (.list (v :: items) :: stack)) =
        some (.after w (.list (v :: items) :: stack)) := hw _ (by rw [List.length_cons]; omega)
    have hcomma : step (.after v (.list items :: stack)) .comma =
        some (.value (.list (v :: items) :: stack)) := rfl
    rw [itemTokens, List.foldlM_cons_of_some hcomma, List.foldlM_append_of_some hread, ih hrest]
    simp

/-- The members behind a first one. -/
theorem foldlM_memberTokens {rest : List (String × Json)}
    (hrest : ∀ e ∈ rest, IsReadBack depth e.2) (v : Json) (key : String)
    (members : List (String × Json)) {stack : List Frame}
    (hordered : SortedMap.Ordered (members ++ (key, v) :: rest))
    (hdepth : stack.length + (depth + 1) ≤ maxDepth) :
    (memberTokens rest).foldlM step (.after v (.object members key :: stack)) =
      some (.after (.object (members ++ (key, v) :: rest)) stack) := by
  induction rest generalizing v key members with
  | nil =>
    have hinsert := SortedMap.insert_eq_concat hordered
    simp [memberTokens, step, takeAfter?, hinsert]
  | cons e rest ih =>
    obtain ⟨key', w⟩ := e
    obtain ⟨hw, hrest⟩ := List.forall_mem_cons.mp hrest
    -- the member just read joins those before it at their end, its key being greater than theirs
    have hsplit : members ++ (key, v) :: (key', w) :: rest =
        (members ++ [(key, v)]) ++ (key', w) :: rest := by simp
    rw [hsplit] at hordered ⊢
    have hinsert : SortedMap.insert key v members = members ++ [(key, v)] :=
      SortedMap.insert_eq_concat (List.pairwise_append.mp hordered).1
    have hkey : List.foldlM step (.after v (.object members key :: stack))
        [.comma, .text key', .colon] =
          some (.value (.object (members ++ [(key, v)]) key' :: stack)) := by
      rw [← hinsert]
      rfl
    have hread : w.tokens.foldlM step (.value (.object (members ++ [(key, v)]) key' :: stack)) =
        some (.after w (.object (members ++ [(key, v)]) key' :: stack)) :=
      hw _ (by rw [List.length_cons]; omega)
    have htokens : memberTokens ((key', w) :: rest) =
        [.comma, .text key', .colon] ++ (w.tokens ++ memberTokens rest) := rfl
    rw [htokens, List.foldlM_append_of_some hkey, List.foldlM_append_of_some hread,
      ih hrest _ _ _ hordered]

theorem IsReadBack.list {items : List Json} (h : ∀ w ∈ items, IsReadBack depth w) :
    IsReadBack (depth + 1) (.list items) := by
  intro stack hdepth
  have hopen : step (.value stack) .openBracket = some (.firstItem stack) := if_pos (by omega)
  cases items with
  | nil =>
    rw [tokens, List.foldlM_cons_of_some hopen]
    rfl
  | cons item rest =>
    obtain ⟨hitem, hrest⟩ := List.forall_mem_cons.mp h
    have hread : item.tokens.foldlM step (.value (.list [] :: stack)) =
        some (.after item (.list [] :: stack)) := hitem _ (by rw [List.length_cons]; omega)
    -- behind the bracket the list could still end at once; an item does not see the difference
    rw [← foldlM_firstItem] at hread
    rw [tokens, List.foldlM_cons_of_some hopen, List.foldlM_append_of_some hread,
      foldlM_itemTokens hrest item [] hdepth]
    rfl

theorem IsReadBack.object {members : List (String × Json)} (hordered : SortedMap.Ordered members)
    (h : ∀ e ∈ members, IsReadBack depth e.2) : IsReadBack (depth + 1) (.object members) := by
  intro stack hdepth
  have hopen : step (.value stack) .openBrace = some (.firstKey stack) := if_pos (by omega)
  cases members with
  | nil =>
    rw [tokens, List.foldlM_cons_of_some hopen]
    rfl
  | cons e rest =>
    obtain ⟨key, w⟩ := e
    obtain ⟨hw, hrest⟩ := List.forall_mem_cons.mp h
    have hkey : List.foldlM step (.firstKey stack) [.text key, .colon] =
        some (.value (.object [] key :: stack)) := rfl
    have hread : w.tokens.foldlM step (.value (.object [] key :: stack)) =
        some (.after w (.object [] key :: stack)) := hw _ (by rw [List.length_cons]; omega)
    have htokens : tokens (.object ((key, w) :: rest)) =
        .openBrace :: ([.text key, .colon] ++ (w.tokens ++ memberTokens rest)) := rfl
    rw [htokens, List.foldlM_cons_of_some hopen, List.foldlM_append_of_some hkey,
      List.foldlM_append_of_some hread, foldlM_memberTokens hrest w key [] hordered hdepth]
    rfl

/-- A value that can be delivered is read back wherever there is room for it. -/
theorem IsDelivered.isReadBack (h : IsDelivered P depth v) : IsReadBack depth v := by
  induction h with
  | null => exact fun _ _ => rfl
  | bool => exact fun _ _ => rfl
  | number => exact fun _ _ => rfl
  | text => exact fun _ _ => rfl
  | list _ ih => exact .list ih
  | object hordered _ ih => exact .object hordered ih

/-- A value that can be delivered is what its tokens stand for. -/
theorem IsDelivered.ofTokens?_tokens (h : IsDelivered P maxDepth v) :
    ofTokens? v.tokens = some v := by
  have hread : v.tokens.foldlM step (.value []) = some (.after v []) :=
    h.isReadBack [] (Nat.le_of_eq (Nat.zero_add maxDepth))
  rw [ofTokens?, hread]
  rfl

end Json
end LuauLayout
