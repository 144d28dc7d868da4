import TextGrammar.Proofs.CommittedList
import TextGrammar.Proofs.DecimalLiterals
import TextGrammar.Proofs.Expression
import TextGrammar.Proofs.Failing

/-!
Contract: how expressions in parentheses fail.

Owns:
- `Failure.MissesOneOf`, the failures at a character that is missing some steps ahead;
- that the parser of expressions fails at `(`, `/` or `)` and in no other way;
- `ReachesOperand`, the places at which a text is to go on with an operand, and that what fails
  there is the failure of the whole expression.

A literal is the first of two alternatives and an operator the first three of four, so what they say
is lost. An operand that is neither is missing its parenthesis, and one that is out of range is
reported like one that is not there.
-/

namespace TextGrammar

/-- The failure is that of one of the given characters: another one, or none, stands in its place
some steps ahead of the cursor. -/
def Failure.MissesOneOf (expected : List Char) (cursor : Cursor) (reason : Failure) : Prop :=
  ∃ character ∈ expected, ∃ steps, steps ≤ cursor.unread.length ∧
    (cursor.advance steps).current ≠ some character ∧
    reason = .charMismatch character (cursor.advance steps).current

theorem Failure.MissesOneOf.of_advance {expected : List Char} {cursor : Cursor} {steps : Nat}
    {reason : Failure} (within : steps ≤ cursor.unread.length)
    (misses : reason.MissesOneOf expected (cursor.advance steps)) :
    reason.MissesOneOf expected cursor := by
  obtain ⟨character, member, moreSteps, moreWithin, different, reasonEq⟩ := misses
  rw [Cursor.unread_advance, List.length_drop] at moreWithin
  rw [← Cursor.advance_add] at different reasonEq
  exact ⟨character, member, steps + moreSteps, by omega, different, reasonEq⟩

/-- The causes to fail at one of the given characters. -/
def Causes.ofCharacters (expected : List Char) : Causes where
  arises cursor reason := reason.MissesOneOf expected cursor
  carried := Failure.MissesOneOf.of_advance

namespace Parser

variable {α : Type} {causes : Causes}

theorem failsBy_char_of_mem {character : Char} {expected : List Char}
    (member : character ∈ expected) : (char character).FailsBy (.ofCharacters expected) :=
  failsBy_char_of_mismatch fun _ different =>
    ⟨character, member, 0, Nat.zero_le _, different, rfl⟩

/-- Blanks never fail, so a padded parser fails as the parser does after them. -/
theorem FailsBy.padded {parser : Parser α} (fails : parser.FailsBy causes)
    (advances : parser.Advances) : (padded parser).FailsBy causes :=
  neverFails_blanks.failsBy.second reads_blanks.advances
    (fails.first advances neverFails_blanks.failsBy)

/-- A parser that calls itself fails as its body does where the calls fail by the same causes. -/
theorem FailsBy.fix {body : Parser α → Parser α} (guarded : Guarded body)
    (bodyFails : ∀ {inner : Parser α}, inner.Advances → inner.FailsBy causes →
      (body inner).FailsBy causes) :
    (fix body).FailsBy causes := by
  refine guarded.parse_fix_induction
    (fun cursor outcome => ∀ reason, outcome = .failure reason → causes.arises cursor reason)
    ?_ bodyFails
  intro cursor reason failed
  contradiction

end Parser

namespace Arithmetic

open TextGrammar.Parser

/-- The characters that an expression can fail at. -/
def awaited : List Char := ['(', '/', ')']

/-- The last operator answers for all. -/
theorem Operator.failsBy_symbol : Operator.parser.FailsBy (.ofCharacters awaited) := by
  have divFails : (char '/').FailsBy (.ofCharacters awaited) := failsBy_char_of_mem (by decide)
  have anyFails := ((divFails.orElse (char '*')).orElse (char '-')).orElse (char '+')
  exact anyFails.map Operator.ofSymbol

namespace Tree

/-! ### What an expression fails at -/

theorem failsBy_body {operand : Parser Tree} (advances : operand.Advances)
    (fails : operand.FailsBy (.ofCharacters awaited)) :
    (body operand).FailsBy (.ofCharacters awaited) := by
  have operandAdvances := advances.padded
  have operandFails := fails.padded advances
  have leftAdvances := operandAdvances.both Operator.reads_symbol.advances
  have leftFails := operandFails.both operandAdvances Operator.failsBy_symbol
  have closed := (leftFails.both leftAdvances operandFails).first
    (leftAdvances.both operandAdvances) (failsBy_char_of_mem (by decide : ')' ∈ awaited))
  have opened := (failsBy_char_of_mem (by decide : '(' ∈ awaited)).second
    (reads_char '(').advances closed
  exact (opened.map _).orElse literalParser

theorem failsBy_expression : parser.FailsBy (.ofCharacters awaited) :=
  .fix guarded_body failsBy_body

/-! ### Operands -/

section Operands

variable {cursor between after : Cursor} {tail : List Char} {reason : Failure} {left : Tree}
  {operator : Operator}

theorem parse_eq_orElse (cursor : Cursor) :
    parser.parse cursor =
      (literalParser.parse cursor).orElse fun _ => (operationParser parser).parse cursor :=
  calc parser.parse cursor
      _ = (body parser).parse cursor := congrArg (·.parse cursor) guarded_body.fix_eq
      _ = _ := parse_orElse literalParser (operationParser parser) cursor

/-- In front of a parenthesis there is no literal, and after it come the operands. -/
theorem parse_of_opening (unreadEq : cursor.unread = '(' :: tail) :
    parser.parse cursor =
      ((Parser.first (((padded parser).both Operator.parser).both (padded parser))
        (char ')')).parse cursor.next).map fun read => operation read.1.2 read.1.1 read.2 := by
  have opening : cursor.current = some '(' := Cursor.current_of_unread unreadEq
  have noLiteral : Language.numeral.Refuses cursor.unread := by
    rw [unreadEq]
    exact Language.refuses_numeral (not_startsWith_cons (by decide) tail)
  obtain ⟨other, failed⟩ := (reads_natural cursor).failure_of_refuses noLiteral
  rw [parse_eq_orElse, literalParser, number, parse_map, parse_map, failed, Outcome.map_failure,
    Outcome.map_failure, Outcome.failure_orElse, operationParser, parse_map, Parser.between,
    parse_second, parse_char_of_current opening, Outcome.success_andThen]

/-- Where there is no literal and no parenthesis, the parenthesis is reported. -/
theorem parse_of_no_literal {other : Failure} (noLiteral : natural.parse cursor = .failure other)
    (notOpening : cursor.current ≠ some '(') :
    parser.parse cursor = .failure (.charMismatch '(' cursor.current) := by
  have opening : (operationParser parser).parse cursor =
      .failure (.charMismatch '(' cursor.current) := by
    rw [operationParser, parse_map, between, parse_second, parse_char_of_ne notOpening]
    rfl
  rw [parse_eq_orElse, literalParser, number, parse_map, parse_map, noLiteral, opening]
  rfl

theorem parse_of_left_failed (unreadEq : cursor.unread = '(' :: tail)
    (failed : parser.parse cursor.next.pastBlanks = .failure reason) :
    parser.parse cursor = .failure reason := by
  rw [parse_of_opening unreadEq, parse_first, parse_both, parse_both, parse_padded, failed]
  rfl

theorem parse_of_right_failed (unreadEq : cursor.unread = '(' :: tail)
    (readLeft : parser.parse cursor.next.pastBlanks = .success left between)
    (readOperator : Operator.parser.parse between.pastBlanks = .success operator after)
    (failed : parser.parse after.pastBlanks = .failure reason) :
    parser.parse cursor = .failure reason := by
  rw [parse_of_opening unreadEq, parse_first, parse_both, parse_both, parse_padded, readLeft,
    Outcome.success_andThen, Outcome.success_andThen, readOperator, Outcome.map_success,
    Outcome.success_andThen, parse_padded, failed]
  rfl

end Operands

/-- The first text goes on with the second one where an operand is to stand: in front of everything,
after an opening parenthesis, or after a parenthesis, a left operand and an operator. -/
inductive ReachesOperand : List Char → List Char → Prop where
  | here (ahead : List Char) : ReachesOperand ahead ahead
  | left {gap inner ahead : List Char} (gapBlanks : Blanks gap)
      (reaches : ReachesOperand inner ahead) : ReachesOperand ('(' :: (gap ++ inner)) ahead
  | right {left : Tree} {operator : Operator} {before leftText behind gap inner ahead : List Char}
      (leftRendering : Rendering left leftText) (beforeBlanks : Blanks before)
      (behindBlanks : Blanks behind) (gapBlanks : Blanks gap)
      (reaches : ReachesOperand inner ahead) :
      ReachesOperand
        ('(' :: (before ++ (leftText ++ (behind ++ operator.symbol :: (gap ++ inner))))) ahead

theorem ReachesOperand.not_startsWith_blank {whole ahead : List Char}
    (reaches : ReachesOperand whole ahead) (notBlank : ¬ StartsWith isBlank ahead) :
    ¬ StartsWith isBlank whole := by
  cases reaches with
  | here => exact notBlank
  | left => exact not_startsWith_cons (by decide) _
  | right => exact not_startsWith_cons (by decide) _

/-- An operand that fails is the failure of the whole expression. -/
theorem ReachesOperand.parse_eq_failure {whole ahead : List Char} {reason : Failure}
    (reaches : ReachesOperand whole ahead) (notBlank : ¬ StartsWith isBlank ahead)
    (failed : ∀ place : Cursor, place.unread = ahead → parser.parse place = .failure reason)
    {cursor : Cursor} (unreadEq : cursor.unread = whole) :
    parser.parse cursor = .failure reason := by
  induction reaches generalizing cursor with
  | here ahead => exact failed cursor unreadEq
  | left gapBlanks reaches inductionHypothesis =>
      have innerEq := Cursor.unread_pastBlanks_of_append gapBlanks
        (Cursor.unread_next_of_unread unreadEq) (reaches.not_startsWith_blank notBlank)
      exact parse_of_left_failed unreadEq (inductionHypothesis notBlank failed innerEq)
  | @right left operator before leftText behind gap inner ahead leftRendering beforeBlanks
      behindBlanks gapBlanks reaches inductionHypothesis =>
      -- The left operand ends in front of its blanks, so the run goes on to the right one.
      have leftEq := Cursor.unread_pastBlanks_of_append beforeBlanks
        (Cursor.unread_next_of_unread unreadEq) (leftRendering.not_startsWith_blank _)
      have noDigit : ¬ StartsWith Char.isDigit (behind ++ operator.symbol :: (gap ++ inner)) :=
        behindBlanks.not_startsWith_digit (not_startsWith_cons operator.isDigit_symbol _)
      have readLeft := (reads_language _).success leftEq ⟨leftRendering, fun _ => noDigit⟩
      have operatorEq : _ = [operator.symbol] ++ (gap ++ inner) :=
        Cursor.unread_pastBlanks_of_append behindBlanks (Cursor.unread_advance_length leftEq)
          (not_startsWith_cons operator.isBlank_symbol _)
      have readOperator := (Operator.reads_symbol _).success operatorEq rfl
      have innerEq := Cursor.unread_pastBlanks_of_append gapBlanks
        (Cursor.unread_advance_length operatorEq) (reaches.not_startsWith_blank notBlank)
      exact parse_of_right_failed unreadEq readLeft readOperator
        (inductionHypothesis notBlank failed innerEq)

/-- A number that is out of range is no literal, and so its parenthesis is missing. -/
theorem parse_of_overflowing {cursor : Cursor} {digit : Char} {digits rest : List Char}
    (overflowing : Overflowing (digit :: digits)) (stopped : ¬ StartsWith Char.isDigit rest)
    (unreadEq : cursor.unread = digit :: digits ++ rest) :
    parser.parse cursor = .failure (.charMismatch '(' (some digit)) := by
  have currentEq : cursor.current = some digit := by
    rw [Cursor.current, unreadEq]
    rfl
  have notOpening : cursor.current ≠ some '(' := by
    rw [currentEq]
    intro same
    cases same
    exact not_startsWith_cons (by decide) digits overflowing.startsWith
  rw [← currentEq]
  exact parse_of_no_literal (parse_natural_of_overflowing overflowing stopped unreadEq) notOpening

/-- Every failure of an expression is that of a character which is not there: the parenthesis of an
operand, the last of the operators or the closing parenthesis. What the parser of numbers has to
say is never said, and a number that is out of range where an operand is to stand is reported by its
first digit, which is no parenthesis. -/
theorem expressions_fail_at_missing_characters :
    (∀ (cursor : Cursor) (reason : Failure), parser.parse cursor = .failure reason →
      ∃ expected ∈ ['(', '/', ')'], ∃ steps, steps ≤ cursor.unread.length ∧
        (cursor.advance steps).current ≠ some expected ∧
        reason = ⟨.matchMismatch, "expected '" ++ String.singleton expected ++ "' got '" ++
          Failure.foundText (cursor.advance steps).current ++ "'", .matchChar⟩) ∧
    (∀ (place cursor : Cursor) (reason : Failure), natural.parse place = .failure reason →
      parser.parse cursor ≠ .failure reason) ∧
    ∀ (cursor : Cursor) (literal rest : List Char), Overflowing literal →
      ¬ StartsWith Char.isDigit rest → ReachesOperand cursor.unread (literal ++ rest) →
      ∃ digit, literal.head? = some digit ∧ parser.parse cursor = .failure ⟨.matchMismatch,
        "expected '(' got '" ++ String.singleton digit ++ "'", .matchChar⟩ := by
  refine ⟨failsBy_expression, fun place cursor reason unread failed => ?_, ?_⟩
  · obtain ⟨_, _, _, _, _, rfl⟩ := failsBy_expression cursor reason failed
    rcases failure_of_parse_natural unread with same | ⟨_, same⟩
    · cases same
    · cases same
  · intro cursor literal rest overflowing stopped reaches
    cases literal with
    | nil => exact absurd rfl overflowing.nonempty
    | cons digit digits =>
        exact ⟨digit, rfl, reaches.parse_eq_failure (overflowing.not_startsWith_blank rest)
          (fun place => parse_of_overflowing overflowing stopped) rfl⟩

/-- An operation without its operator, and one with a right operand that is out of range. -/
theorem failures_without_operator_and_out_of_range :
    parser.parse (Cursor.ofText "(1 2)") = .failure (.charMismatch '/' (some '2')) ∧
    (∃ expected ∈ ['(', '/', ')'], ∃ steps, steps ≤ (Cursor.ofText "(1 2)").unread.length ∧
      ((Cursor.ofText "(1 2)").advance steps).current ≠ some expected ∧
      Failure.charMismatch '/' (some '2') = ⟨.matchMismatch,
        "expected '" ++ String.singleton expected ++ "' got '" ++
          Failure.foundText ((Cursor.ofText "(1 2)").advance steps).current ++ "'", .matchChar⟩) ∧
    natural.parse (Cursor.ofText "18446744073709551616)") =
      .failure ⟨.rejected, "number out of range: 18446744073709551616", .fail⟩ ∧
    parser.parse (Cursor.ofText "(1 + 18446744073709551616)") ≠
      .failure ⟨.rejected, "number out of range: 18446744073709551616", .fail⟩ ∧
    parser.parse (Cursor.ofText "(1 + 18446744073709551616)") =
      .failure ⟨.matchMismatch, "expected '(' got '1'", .matchChar⟩ := by
  obtain ⟨atCharacters, notOfNumbers, outOfRange⟩ := expressions_fail_at_missing_characters
  have withoutOperator :
      parser.parse (Cursor.ofText "(1 2)") = .failure (.charMismatch '/' (some '2')) := rfl
  have overflowing : Overflowing "18446744073709551616".toList := ⟨by simp, by decide +kernel⟩
  have unread : natural.parse (Cursor.ofText "18446744073709551616)") =
      .failure ⟨.rejected, "number out of range: 18446744073709551616", .fail⟩ :=
    parse_natural_of_overflowing overflowing (not_startsWith_cons (by decide) []) rfl
  have one : Rendering (.literal (1 : UInt64).toFloat) ['1'] :=
    .literal ⟨by decide, List.forall_mem_singleton.mpr rfl, rfl⟩
  have reaches (ahead : List Char) : ReachesOperand
      ('(' :: ([] ++ (['1'] ++ ([' '] ++ Operator.add.symbol :: ([' '] ++ ahead))))) ahead :=
    .right one (by decide) (by decide) (by decide) (.here ahead)
  obtain ⟨digit, digitEq, failed⟩ := outOfRange
    (Cursor.ofText "(1 + 18446744073709551616)") _ [')'] overflowing (by decide) (reaches _)
  cases digitEq
  exact ⟨withoutOperator, atCharacters _ _ withoutOperator, unread, notOfNumbers _ _ _ unread,
    failed⟩

end Tree

end Arithmetic

end TextGrammar
