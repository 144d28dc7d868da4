import TextGrammar.Parser.Basic

/-!
Contract: running a parser again and again until it fails.

Owns:
- `repeatWithin`, the loop with a bound on its runs;
- `many`, which always succeeds if it returns, and `many1`, which needs one match.

The failure that ends the loop is dropped, and the cursor is the one that the failing run began at.
The bound is `Cursor.horizon`: if so many runs succeed, one of them left the cursor where it was,
and the loop would not end. That is the outcome `endless`.
-/

namespace TextGrammar

namespace Parser

variable {α : Type}

/-- Run the parser until it fails, but not more than `runs` times. -/
def repeatWithin (parser : Parser α) : (runs : Nat) → Cursor → Outcome (List α)
  | 0, _ => .endless
  | runs + 1, cursor =>
      match parser.parse cursor with
      | .success value next => (repeatWithin parser runs next).map (value :: ·)
      | .failure _ => .success [] cursor
      | .endless => .endless

/-- Read as many values as there are, or none. -/
def many (parser : Parser α) : Parser (List α) where
  parse cursor := repeatWithin parser cursor.horizon cursor

/-- Read as many values as there are, but one at least. -/
def many1 (parser : Parser α) : Parser (List α) where
  parse cursor := (parser.many.parse cursor).andThen fun values next =>
    if values.isEmpty then .failure .emptyRepetition else .success values next

@[simp] theorem repeatWithin_zero (parser : Parser α) (cursor : Cursor) :
    repeatWithin parser 0 cursor = .endless := rfl

theorem repeatWithin_succ (parser : Parser α) (runs : Nat) (cursor : Cursor) :
    repeatWithin parser (runs + 1) cursor =
      match parser.parse cursor with
      | .success value next => (repeatWithin parser runs next).map (value :: ·)
      | .failure _ => .success [] cursor
      | .endless => .endless := rfl

/-- A loop that returns stops here, where its parser fails, or reads a value and goes on. -/
theorem repeatWithin_succ_eq_success_iff {parser : Parser α} {runs : Nat} {cursor last : Cursor}
    {values : List α} :
    repeatWithin parser (runs + 1) cursor = .success values last ↔
      (∃ reason, parser.parse cursor = .failure reason ∧ [] = values ∧ cursor = last) ∨
      ∃ value next others, parser.parse cursor = .success value next ∧
        repeatWithin parser runs next = .success others last ∧ value :: others = values := by
  rw [repeatWithin_succ]
  cases parser.parse cursor with
  | failure reason => simp
  | endless => simp
  | success value next => simp [Outcome.map_eq_success_iff, and_assoc]

theorem parse_many (parser : Parser α) (cursor : Cursor) :
    parser.many.parse cursor = repeatWithin parser cursor.horizon cursor := rfl

theorem parse_many1 (parser : Parser α) (cursor : Cursor) :
    parser.many1.parse cursor =
      (parser.many.parse cursor).andThen fun values next =>
        if values.isEmpty then .failure .emptyRepetition else .success values next := rfl

end Parser

end TextGrammar
