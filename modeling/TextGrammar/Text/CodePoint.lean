/-!
Contract: classes of characters that are given by ranges of code points.

Owns membership in a list of ranges, and the ways to see from the ranges alone that a character is
not in the class.
-/

namespace TextGrammar

/-- Whether the character lies in one of the ranges, both ends of a range included. -/
def inRanges (ranges : List (Nat × Nat)) (character : Char) : Bool :=
  ranges.any fun range => range.1 ≤ character.toNat && character.toNat ≤ range.2

/-- A character between two bounds is outside ranges that all lie below or above them. -/
theorem inRanges_eq_false_of_between {ranges : List (Nat × Nat)} {lower upper : Nat}
    (apart : ranges.all (fun range => range.2 < lower || upper < range.1))
    {character : Char}
    (low : lower ≤ character.toNat) (high : character.toNat ≤ upper) :
    inRanges ranges character = false := by
  rw [inRanges, List.any_eq_false]
  intro range member
  have rangeApart := List.all_eq_true.mp apart range member
  simp only [Bool.or_eq_true, decide_eq_true_eq, Bool.and_eq_true] at rangeApart ⊢
  omega

end TextGrammar
