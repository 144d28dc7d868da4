import TextGrammar.Parser.Character
import TextGrammar.Parser.Pairing

/-!
Contract: a list of parsers, one after the other.

Owns:
- `sequence`, which reads one value for each parser of a list;
- `indexed`, the same for parsers given by their index, which looks none of them up before its
  turn, so that a failure is as cheap in a long sequence as in a short one;
- `text`, which reads a given text character by character and so fails at the first character that
  differs.
-/

namespace TextGrammar

namespace Parser

variable {α : Type}

/-- Read one value for each parser, in order. -/
def sequence : List (Parser α) → Parser (List α)
  | [] => succeed []
  | head :: tail => ⟨fun cursor => (head.parse cursor).andThen fun value next =>
      ((sequence tail).parse next).map (value :: ·)⟩

/-- Read one value for each of the last `left` indices, in order. -/
def indexedFrom {count : Nat} (items : Fin count → Parser α) :
    (left : Nat) → left ≤ count → Parser (List α)
  | 0, _ => succeed []
  | left + 1, bounded => ⟨fun cursor =>
      ((items ⟨count - (left + 1), by omega⟩).parse cursor).andThen fun value next =>
        ((indexedFrom items left (Nat.le_of_succ_le bounded)).parse next).map (value :: ·)⟩

/-- Read one value for each index, in order. -/
def indexed {count : Nat} (items : Fin count → Parser α) : Parser (List α) :=
  indexedFrom items count (Nat.le_refl count)

/-- Read exactly the characters of `expected`. -/
def text (expected : String) : Parser String :=
  (sequence (expected.toList.map char)).map String.ofList

@[simp] theorem parse_sequence_nil (cursor : Cursor) :
    (sequence ([] : List (Parser α))).parse cursor = .success [] cursor := rfl

theorem parse_sequence_cons (head : Parser α) (tail : List (Parser α)) (cursor : Cursor) :
    (sequence (head :: tail)).parse cursor =
      (head.parse cursor).andThen fun value next =>
        ((sequence tail).parse next).map (value :: ·) := rfl

/-- Two lists in a row are read like the one after the other. -/
theorem parse_sequence_append (front back : List (Parser α)) (cursor : Cursor) :
    (sequence (front ++ back)).parse cursor =
      ((sequence front).parse cursor).andThen fun values next =>
        ((sequence back).parse next).map (values ++ ·) := by
  induction front generalizing cursor with
  | nil =>
      rw [List.nil_append, parse_sequence_nil, Outcome.success_andThen]
      cases (sequence back).parse cursor <;> rfl
  | cons head tail inductionHypothesis =>
      simp only [List.cons_append, parse_sequence_cons, inductionHypothesis,
        Outcome.map_eq_andThen, Outcome.andThen_assoc, Outcome.success_andThen]

/-- There are as many values as parsers. -/
theorem length_of_parse_sequence {items : List (Parser α)} {cursor last : Cursor}
    {values : List α} (read : (sequence items).parse cursor = .success values last) :
    values.length = items.length := by
  induction items generalizing cursor values with
  | nil =>
      cases read
      rfl
  | cons head tail inductionHypothesis =>
      rw [parse_sequence_cons, Outcome.andThen_eq_success_iff] at read
      obtain ⟨value, next, _, readTail⟩ := read
      obtain ⟨others, readOthers, rfl⟩ := Outcome.map_eq_success_iff.mp readTail
      rw [List.length_cons, List.length_cons, inductionHypothesis readOthers]

private theorem indexedFrom_eq_sequence {count : Nat} (items : Fin count → Parser α)
    (left : Nat) (bounded : left ≤ count) :
    indexedFrom items left bounded = sequence ((List.ofFn items).drop (count - left)) := by
  induction left with
  | zero => rw [Nat.sub_zero, List.drop_of_length_le (Nat.le_of_eq List.length_ofFn)]; rfl
  | succ left inductionHypothesis =>
      have inRange : count - (left + 1) < (List.ofFn items).length := by
        rw [List.length_ofFn]
        omega
      have following : count - (left + 1) + 1 = count - left := by omega
      rw [List.drop_eq_getElem_cons inRange, following, indexedFrom, sequence,
        inductionHypothesis (Nat.le_of_succ_le bounded), List.getElem_ofFn]

/-- Parsers given by their index are read like the list of them. -/
theorem indexed_eq_sequence {count : Nat} (items : Fin count → Parser α) :
    indexed items = sequence (List.ofFn items) := by
  rw [indexed, indexedFrom_eq_sequence, Nat.sub_self, List.drop_zero]

end Parser

end TextGrammar
