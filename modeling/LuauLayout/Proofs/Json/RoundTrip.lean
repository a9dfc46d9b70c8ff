/-
  LuauLayout.Proofs.Json.RoundTrip

  Values written as JSON texts, and read again.

  The characters of a value are scanned to its tokens, and its tokens are read
  to the value. Both hold for every value that a reader can deliver, as long as
  its numbers are integers of 64 bits: `parse?_compress`.
-/

import LuauLayout.Proofs.Json.Integers
import LuauLayout.Proofs.Json.Reading

namespace LuauLayout
namespace Json

variable {v w : Json} {depth : Nat}

/-! ## The characters of a value -/

theorem itemChars_eq_cons (items : List Json) :
    ∃ c cs, itemChars items = c :: cs ∧ Scan.IsBoundary c := by
  cases items with
  | nil => exact ⟨_, _, rfl, by decide⟩
  | cons => exact ⟨_, _, rfl, by decide⟩

theorem memberChars_eq_cons (members : List (String × Json)) :
    ∃ c cs, memberChars members = c :: cs ∧ Scan.IsBoundary c := by
  cases members with
  | nil => exact ⟨_, _, rfl, by decide⟩
  | cons => exact ⟨_, _, rfl, by decide⟩

namespace Emits

variable {cs ds : List Char} {ts us : List Token}

/-- An item and what stands behind it. -/
theorem append_items {rest : List Json} (h : Emits cs ts)
    (hrest : Emits (itemChars rest) (itemTokens rest)) :
    Emits (cs ++ itemChars rest) (ts ++ itemTokens rest) := by
  obtain ⟨c, ds, heq, hc⟩ := itemChars_eq_cons rest
  rw [heq] at hrest ⊢
  exact h.append hc hrest

/-- A member and what stands behind it. -/
theorem append_members {rest : List (String × Json)} (key : String) (h : Emits cs ts)
    (hrest : Emits (memberChars rest) (memberTokens rest)) :
    Emits (textChars key ++ ':' :: (cs ++ memberChars rest))
      (.text key :: .colon :: (ts ++ memberTokens rest)) := by
  obtain ⟨c, ds, heq, hc⟩ := memberChars_eq_cons rest
  rw [heq] at hrest ⊢
  have hvalue : Emits (':' :: (cs ++ c :: ds)) (.colon :: (ts ++ memberTokens rest)) :=
    .cons (fun _ => rfl) (h.append hc hrest)
  exact (Emits.text key).append (by decide) hvalue

theorem items {items : List Json} (h : ∀ v ∈ items, Emits v.chars v.tokens) :
    Emits (itemChars items) (itemTokens items) := by
  induction items with
  | nil => exact .single fun _ => rfl
  | cons v rest ih =>
    obtain ⟨hv, hrest⟩ := List.forall_mem_cons.mp h
    exact .cons (fun _ => rfl) (hv.append_items (ih hrest))

theorem members {members : List (String × Json)} (h : ∀ e ∈ members, Emits e.2.chars e.2.tokens) :
    Emits (memberChars members) (memberTokens members) := by
  induction members with
  | nil => exact .single fun _ => rfl
  | cons e rest ih =>
    obtain ⟨key, v⟩ := e
    obtain ⟨hv, hrest⟩ := List.forall_mem_cons.mp h
    exact .cons (fun _ => rfl) (hv.append_members key (ih hrest))

end Emits

/-- What is written for a value is scanned to its tokens. -/
theorem IsDelivered.emits_chars (h : IsDelivered JsonNumber.IsInteger64 depth v) :
    Emits v.chars v.tokens := by
  induction h with
  | null => exact .word rfl
  | bool _ b =>
    cases b with
    | true => exact .word rfl
    | false => exact .word rfl
  | number _ hn => exact JsonNumber.emits_chars hn
  | text _ s => exact .text s
  | @list _ items _ ih =>
    cases items with
    | nil => exact .cons (fun _ => rfl) (.single fun _ => rfl)
    | cons item rest =>
      obtain ⟨hitem, hrest⟩ := List.forall_mem_cons.mp ih
      exact .cons (fun _ => rfl) (hitem.append_items (.items hrest))
  | @object _ members _ _ ih =>
    cases members with
    | nil => exact .cons (fun _ => rfl) (.single fun _ => rfl)
    | cons e rest =>
      obtain ⟨key, w⟩ := e
      obtain ⟨hw, hrest⟩ := List.forall_mem_cons.mp ih
      exact .cons (fun _ => rfl) (hw.append_members key (.members hrest))

/-- A value with integers for numbers is read back from what is written for it. -/
theorem parse?_compress (h : IsDelivered JsonNumber.IsInteger64 maxDepth v) :
    parse? v.compress = some v := by
  rw [parse?, compress, String.toList_ofList, h.emits_chars.tokens?, Option.bind_some,
    h.ofTokens?_tokens]

/-- All numerals of a text are literals without fraction and exponent that fit into 64 bits. -/
def HasPlainNumerals (text : String) : Prop :=
  ∀ cs ∈ numerals text, ∃ l, Literal.ofChars? cs = some l ∧ l.IsPlain

/-- The values in a text whose numerals are plain have integers for numbers. -/
theorem HasPlainNumerals.isDelivered {text : String} (h : HasPlainNumerals text)
    (hread : parse? text = some v) : IsDelivered JsonNumber.IsInteger64 maxDepth v := by
  refine isDelivered_of_parse? hread fun cs hcs n hn => ?_
  obtain ⟨l, hl, hplain⟩ := h cs hcs
  obtain ⟨l', hl', hn⟩ := Option.bind_eq_some_iff.mp hn
  obtain ⟨m, hm, hmn⟩ := Option.map_eq_some_iff.mp hn
  cases hmn
  obtain rfl : l = l' := Option.some.inj (hl.symm.trans hl')
  exact JsonNumber.isInteger64_of_isPlain hplain hm

end Json
end LuauLayout
