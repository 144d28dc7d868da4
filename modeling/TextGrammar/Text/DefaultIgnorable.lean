import TextGrammar.Text.CodePoint

/-!
Contract: the characters that are shown as nothing at all.

Owns the ranges of code points with the Unicode property Default_Ignorable_Code_Point: fillers,
joiners, direction marks, variation selectors and tags. Most of them are format characters or
marks as well; the Hangul fillers count as letters, and yet nothing of them is seen.
-/

namespace TextGrammar.DefaultIgnorable

/-- The ranges in increasing order, both ends included. -/
def ranges : List (Nat × Nat) :=
  [(0xad, 0xad), (0x34f, 0x34f), (0x61c, 0x61c), (0x115f, 0x1160), (0x17b4, 0x17b5),
    (0x180b, 0x180f), (0x200b, 0x200f), (0x202a, 0x202e), (0x2060, 0x206f), (0x3164, 0x3164),
    (0xfe00, 0xfe0f), (0xfeff, 0xfeff), (0xffa0, 0xffa0), (0xfff0, 0xfff8), (0x1bca0, 0x1bca3),
    (0x1d173, 0x1d17a), (0xe0000, 0xe0fff)]

end TextGrammar.DefaultIgnorable

namespace TextGrammar

/-- Whether a character is shown as nothing at all. -/
def isDefaultIgnorable (character : Char) : Bool :=
  inRanges DefaultIgnorable.ranges character

/-- No character below U+00AD is ignored. -/
theorem isDefaultIgnorable_eq_false_of_lt {character : Char}
    (low : character.toNat < 0xad) :
    isDefaultIgnorable character = false :=
  inRanges_eq_false_of_between (by decide +kernel : _ = true) (Nat.zero_le _)
    (Nat.le_of_lt_succ low)

end TextGrammar
