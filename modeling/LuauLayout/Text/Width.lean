/-
  LuauLayout.Text.Width

  How many columns of a terminal a character takes.

  A character takes one column. Characters that are drawn wide take two, marks,
  joiners and other characters without a place of their own none, and neither do
  controls. A Hangul syllable written letter by letter takes the two columns of
  its first letter.

    * `wide`        — the property East_Asian_Width, values Wide and Fullwidth
      (Unicode 17.0); `recentWide` adds what version 18.0 brings.
    * `joined`      — what joins with its neighbours without being a mark.
    * `charColumns` — the columns of a character; `charColumns_of_ascii` says that
      printable ASCII takes one.
-/

import LuauLayout.Text.Invisible

namespace LuauLayout
namespace Text

/-- The values Wide and Fullwidth of the property East_Asian_Width. -/
def wide : List (Nat × Nat) :=
  [
    (0x1100, 0x115f), (0x231a, 0x231b), (0x2329, 0x232a), (0x23e9, 0x23ec), (0x23f0, 0x23f0),
    (0x23f3, 0x23f3), (0x25fd, 0x25fe), (0x2614, 0x2615), (0x2630, 0x2637), (0x2648, 0x2653),
    (0x267f, 0x267f), (0x268a, 0x268f), (0x2693, 0x2693), (0x26a1, 0x26a1), (0x26aa, 0x26ab),
    (0x26bd, 0x26be), (0x26c4, 0x26c5), (0x26ce, 0x26ce), (0x26d4, 0x26d4), (0x26ea, 0x26ea),
    (0x26f2, 0x26f3), (0x26f5, 0x26f5), (0x26fa, 0x26fa), (0x26fd, 0x26fd), (0x2705, 0x2705),
    (0x270a, 0x270b), (0x2728, 0x2728), (0x274c, 0x274c), (0x274e, 0x274e), (0x2753, 0x2755),
    (0x2757, 0x2757), (0x2795, 0x2797), (0x27b0, 0x27b0), (0x27bf, 0x27bf), (0x2b1b, 0x2b1c),
    (0x2b50, 0x2b50), (0x2b55, 0x2b55), (0x2e80, 0x2e99), (0x2e9b, 0x2ef3), (0x2f00, 0x2fd5),
    (0x2ff0, 0x303e), (0x3041, 0x3096), (0x3099, 0x30ff), (0x3105, 0x312f), (0x3131, 0x318e),
    (0x3190, 0x31e5), (0x31ef, 0x321e), (0x3220, 0x3247), (0x3250, 0xa48c), (0xa490, 0xa4c6),
    (0xa960, 0xa97c), (0xac00, 0xd7a3), (0xf900, 0xfaff), (0xfe10, 0xfe19), (0xfe30, 0xfe52),
    (0xfe54, 0xfe66), (0xfe68, 0xfe6b), (0xff01, 0xff60), (0xffe0, 0xffe6), (0x16fe0, 0x16fe4),
    (0x16ff0, 0x16ff6), (0x17000, 0x18cd5), (0x18cff, 0x18d1e), (0x18d80, 0x18df2),
    (0x1aff0, 0x1aff3), (0x1aff5, 0x1affb), (0x1affd, 0x1affe), (0x1b000, 0x1b122),
    (0x1b132, 0x1b132), (0x1b150, 0x1b152), (0x1b155, 0x1b155), (0x1b164, 0x1b167),
    (0x1b170, 0x1b2fb), (0x1d300, 0x1d356), (0x1d360, 0x1d376), (0x1f004, 0x1f004),
    (0x1f0cf, 0x1f0cf), (0x1f18e, 0x1f18e), (0x1f191, 0x1f19a), (0x1f200, 0x1f202),
    (0x1f210, 0x1f23b), (0x1f240, 0x1f248), (0x1f250, 0x1f251), (0x1f260, 0x1f265),
    (0x1f300, 0x1f320), (0x1f32d, 0x1f335), (0x1f337, 0x1f37c), (0x1f37e, 0x1f393),
    (0x1f3a0, 0x1f3ca), (0x1f3cf, 0x1f3d3), (0x1f3e0, 0x1f3f0), (0x1f3f4, 0x1f3f4),
    (0x1f3f8, 0x1f43e), (0x1f440, 0x1f440), (0x1f442, 0x1f4fc), (0x1f4ff, 0x1f53d),
    (0x1f54b, 0x1f54e), (0x1f550, 0x1f567), (0x1f57a, 0x1f57a), (0x1f595, 0x1f596),
    (0x1f5a4, 0x1f5a4), (0x1f5fb, 0x1f64f), (0x1f680, 0x1f6c5), (0x1f6cc, 0x1f6cc),
    (0x1f6d0, 0x1f6d2), (0x1f6d5, 0x1f6d8), (0x1f6dc, 0x1f6df), (0x1f6eb, 0x1f6ec),
    (0x1f6f4, 0x1f6fc), (0x1f7e0, 0x1f7eb), (0x1f7f0, 0x1f7f0), (0x1f90c, 0x1f93a),
    (0x1f93c, 0x1f945), (0x1f947, 0x1f9ff), (0x1fa70, 0x1fa7c), (0x1fa80, 0x1fa8a),
    (0x1fa8e, 0x1fac6), (0x1fac8, 0x1fac8), (0x1facd, 0x1fadc), (0x1fadf, 0x1faea),
    (0x1faef, 0x1faf8), (0x20000, 0x2fffd), (0x30000, 0x3fffd)
  ]

theorem ascending_wide : ascending wide = true := by decide +kernel

/-- Wide characters of version 18.0: emoji, and characters of Khitan, Tangut, Jurchen and kana. -/
def recentWide : List (Nat × Nat) :=
  [
    (0x18cd6, 0x18cd6), (0x18d1f, 0x18d1f), (0x18e00, 0x1919f), (0x1b123, 0x1b123),
    (0x1f1ae, 0x1f1ae), (0x1f6d9, 0x1f6d9), (0x1f7da, 0x1f7da), (0x1fa8b, 0x1fa8c),
    (0x1facc, 0x1facc), (0x1fadd, 0x1fadd), (0x1faeb, 0x1faeb), (0x1faf9, 0x1fafa)
  ]

theorem ascending_recentWide : ascending recentWide = true := by decide +kernel

/-- Characters that join with their neighbours although they are neither marks nor ignorable:
    signs written over a number or a word, letters of Brahmic scripts that are drawn over or in
    front of the one that follows them, the caret of Devanagari, and the vowels and final
    consonants of Hangul. -/
def joined : List (Nat × Nat) :=
  [
    (0x605, 0x605), (0x70f, 0x70f), (0x890, 0x891), (0x8e2, 0x8e2), (0xd4e, 0xd4e),
    (0x1160, 0x11ff), (0xa8fa, 0xa8fa), (0xd7b0, 0xd7c6), (0xd7cb, 0xd7fb), (0x111c2, 0x111c3),
    (0x113d1, 0x113d1), (0x1193f, 0x1193f), (0x11941, 0x11941), (0x11a84, 0x11a89),
    (0x11d46, 0x11d46), (0x11f02, 0x11f02)
  ]

theorem ascending_joined : ascending joined = true := by decide +kernel

/-- Marks of version 18.0. -/
def recentMarks : List (Nat × Nat) :=
  [
    (0x5c8, 0x5c8), (0xb53, 0xb54), (0x1ade, 0x1adf), (0x1aec, 0x1aec), (0x10ecb, 0x10ecb),
    (0x10ef0, 0x10ef0), (0x11df0, 0x11df0), (0x1d127, 0x1d127), (0x1d250, 0x1d250)
  ]

theorem ascending_recentMarks : ascending recentMarks = true := by decide +kernel

/-- Whether a character takes no column. -/
def isZeroWidth (n : Nat) : Bool :=
  inRanges n joined || inRanges n ignorable || inRanges n combining || inRanges n recentMarks

/-- The columns that a character takes. Six characters go against their properties: the filler
    of a first Hangul letter stands for one, two vowels of Khmer are drawn as two and three
    letters, the joiner of Tifinagh is drawn, and the halfwidth sound marks of kana stand beside
    their letter. -/
def charColumns (c : Char) : Nat :=
  let n := c.toNat
  if n < 0x20 ∨ (0x7f ≤ n ∧ n < 0xa0) then 0
  else if n < 0x7f then 1
  else if n = 0x115f ∨ n = 0x17a4 then 2
  else if n = 0x17d8 then 3
  else if n = 0x2d7f ∨ n = 0xff9e ∨ n = 0xff9f then 1
  else if isZeroWidth n then 0
  else if inRanges n wide || inRanges n recentWide then 2
  else 1

/-- Printable ASCII takes one column. -/
theorem charColumns_of_ascii {c : Char} (hlo : 0x20 ≤ c.toNat) (hhi : c.toNat < 0x7f) :
    charColumns c = 1 := by
  have h : ¬ (c.toNat < 0x20 ∨ (0x7f ≤ c.toNat ∧ c.toNat < 0xa0)) := by omega
  simp [charColumns, h, hhi]

end Text
end LuauLayout
