/-
  LuauLayout.Proofs.Text.ByteOrder

  The order of texts is the order of their bytes.

  Texts are compared character by character, by code point. In UTF-8 a
  character is a first byte, whose leading bits say how many bytes follow, and
  then six bits of the number in each byte that follows. A greater number never
  has a smaller first byte, and among numbers with one first byte the bits that
  follow decide. So of two characters the greater one has the greater byte where
  they first differ, and the bytes of one are never the beginning of those of
  another.

    * `bytes`                       — the bytes of a text.
    * `leadByte`, `sixBits`         — the first byte, and the bytes behind it.
    * `utf8EncodeChar_append_lt`    — of two characters the smaller comes first,
      whatever follows.
    * `bytes_lt_bytes_iff`          — one text precedes another exactly if its
      bytes do.
-/

import LuauLayout.SortedMap

namespace LuauLayout
namespace Text

/-- The bytes of a text in UTF-8. -/
def bytes (s : String) : List UInt8 := s.toUTF8.data.toList

theorem bytes_eq_flatMap (s : String) : bytes s = s.toList.flatMap String.utf8EncodeChar := by
  rw [bytes, String.toUTF8_eq_toByteArray, ← String.utf8Encode_toList, List.utf8Encode,
    List.toList_data_toByteArray]

/-! ## Characters -/

/-- The first byte of the character with a number. Its leading bits say how many follow. -/
def leadByte (n : Nat) : Nat :=
  if n < 0x80 then n
  else if n < 0x800 then 0xc0 + n / 64
  else if n < 0x10000 then 0xe0 + n / 4096
  else 0xf0 + n / 262144

/-- How many bytes follow the first. -/
def followers (n : Nat) : Nat :=
  if n < 0x80 then 0 else if n < 0x800 then 1 else if n < 0x10000 then 2 else 3

/-- The last bytes of a number, with six bits in each. -/
def sixBits (n : Nat) : Nat → List UInt8
  | 0 => []
  | k + 1 => UInt8.ofNat (n / Nat.pow 64 k % 64 + 0x80) :: sixBits n k

theorem toNat_lt (c : Char) : c.toNat < 0x110000 := by
  have hvalid : c.toNat < 0xd800 ∨ (0xdfff < c.toNat ∧ c.toNat < 0x110000) := c.valid
  omega

theorem leadByte_lt {n : Nat} (hn : n < 0x110000) : leadByte n < 256 := by
  rw [leadByte]
  repeat' split
  all_goals omega

/-- A character is its first byte and the bytes behind it. -/
theorem utf8EncodeChar_eq (c : Char) : String.utf8EncodeChar c =
    UInt8.ofNat (leadByte c.toNat) :: sixBits c.toNat (followers c.toNat) := by
  have hc := toNat_lt c
  have hval : c.val.toNat = c.toNat := rfl
  rw [String.utf8EncodeChar, leadByte, followers, hval]
  generalize c.toNat = n at hc
  -- the numbers fall into four ranges; in each, the lead byte has room for the bits that are left
  rcases Nat.lt_or_ge n 0x80 with hone | hone
  · simp (disch := omega) [if_pos, sixBits]
  rcases Nat.lt_or_ge n 0x800 with htwo | htwo
  · have hlead : n / 64 % 32 + 192 = 192 + n / 64 := by omega
    simp (disch := omega) [if_pos, if_neg, sixBits, hlead]
  rcases Nat.lt_or_ge n 0x10000 with hthree | hthree
  · have hlead : n / 4096 % 16 + 224 = 224 + n / 4096 := by omega
    simp (disch := omega) [if_pos, if_neg, sixBits, hlead]
  · have hlead : n / 262144 % 8 + 240 = 240 + n / 262144 := by omega
    simp (disch := omega) [if_neg, sixBits, hlead]

/-- A later first byte means a later number. -/
theorem leadByte_mono {m n : Nat} (h : m < n) (hn : n < 0x110000) : leadByte m ≤ leadByte n := by
  rw [leadByte, leadByte]
  repeat' split
  all_goals omega

/-- The first byte says how many follow, and what is in the high bits of the number. -/
theorem div_eq_of_leadByte_eq {m n : Nat} (hm : m < 0x110000) (hn : n < 0x110000)
    (h : leadByte m = leadByte n) :
    followers m = followers n ∧ m / Nat.pow 64 (followers n) = n / Nat.pow 64 (followers n) := by
  have h0 : Nat.pow 64 0 = 1 := rfl
  have h1 : Nat.pow 64 1 = 64 := rfl
  have h2 : Nat.pow 64 2 = 4096 := rfl
  have h3 : Nat.pow 64 3 = 262144 := rfl
  revert h
  rw [leadByte, leadByte, followers, followers]
  -- in different ranges the first bytes differ, and in one range they have the same bits left out
  repeat' split
  all_goals
    simp only [h0, h1, h2, h3, true_and]
    omega

/-- Where two numbers agree in the high bits, the order is that of the bytes with the others. -/
theorem sixBits_append_lt {m n k : Nat} (h : m < n) (hhigh : m / Nat.pow 64 k = n / Nat.pow 64 k)
    (xs ys : List UInt8) : sixBits m k ++ xs < sixBits n k ++ ys := by
  induction k with
  | zero =>
    simp at hhigh
    omega
  | succ k ih =>
    have hpow (i : Nat) : i / Nat.pow 64 (k + 1) = i / Nat.pow 64 k / 64 := by
      rw [Nat.div_div_eq_div_mul]
      rfl
    rw [hpow, hpow] at hhigh
    have hle : m / Nat.pow 64 k ≤ n / Nat.pow 64 k := Nat.div_le_div_right (Nat.le_of_lt h)
    rw [sixBits, sixBits, List.cons_append, List.cons_append, List.cons_lt_cons_iff]
    rcases Nat.lt_or_eq_of_le hle with hlt | heq
    · left
      rw [UInt8.ofNat_lt_iff_lt (by show _ < 256; omega) (by show _ < 256; omega)]
      omega
    · right
      rw [heq]
      exact ⟨rfl, ih heq⟩

theorem utf8EncodeChar_append_lt {c d : Char} (h : c < d) (xs ys : List UInt8) :
    String.utf8EncodeChar c ++ xs < String.utf8EncodeChar d ++ ys := by
  have hlt : c.toNat < d.toNat := h
  have hc := toNat_lt c
  have hd := toNat_lt d
  rw [utf8EncodeChar_eq, utf8EncodeChar_eq, List.cons_append, List.cons_append,
    List.cons_lt_cons_iff]
  rcases Nat.lt_or_eq_of_le (leadByte_mono hlt hd) with hlead | hlead
  · left
    exact (UInt8.ofNat_lt_iff_lt (leadByte_lt hc) (leadByte_lt hd)).mpr hlead
  · right
    obtain ⟨hfollowers, hhigh⟩ := div_eq_of_leadByte_eq hc hd hlead
    rw [hlead, hfollowers]
    exact ⟨rfl, sixBits_append_lt hlt hhigh xs ys⟩

/-! ## Texts -/

theorem flatMap_utf8EncodeChar_lt {cs ds : List Char} (h : cs < ds) :
    cs.flatMap String.utf8EncodeChar < ds.flatMap String.utf8EncodeChar := by
  induction h with
  | nil =>
    -- every character has a byte
    refine Std.lt_of_le_of_ne (List.nil_le _) ?_
    rw [List.flatMap_nil, List.flatMap_cons, ne_eq, eq_comm, List.append_eq_nil_iff]
    exact fun hnil => String.utf8EncodeChar_ne_nil hnil.1
  | rel h => exact utf8EncodeChar_append_lt h _ _
  | cons _ ih =>
    rw [List.flatMap_cons, List.flatMap_cons]
    exact List.append_left_lt ih

theorem bytes_lt_bytes_iff {s t : String} : bytes s < bytes t ↔ s < t := by
  have hlt {s t : String} (h : s < t) : bytes s < bytes t := by
    rw [bytes_eq_flatMap, bytes_eq_flatMap]
    exact flatMap_utf8EncodeChar_lt h
  refine ⟨fun h => ?_, hlt⟩
  by_cases heq : s = t
  · subst heq
    exact absurd h (List.lt_irrefl _)
  · apply Decidable.byContradiction
    intro hnot
    exact List.lt_asymm h (hlt (SortedMap.lt_of_not_lt hnot heq))

end Text
end LuauLayout
