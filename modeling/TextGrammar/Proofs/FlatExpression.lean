import TextGrammar.Arithmetic.Flat
import TextGrammar.Proofs.Factoring
import TextGrammar.Proofs.OperatorChain

/-!
Contract: one number, or two with an operator between them, read in a single pass.

Owns:
- `Continues`, an operator and a second number after the first one, and `SinglePass`, the answer of
  a reader that takes the first number once and then looks for them;
- that `flat`, whose five alternatives each read the first number again, answers the same;
- `WrittenOperation`, and that `flat` computes the value of the tree that the parser of expressions
  reads from the same text in parentheses.

The five alternatives begin with the first number, so they are factored to the left. What remains
after it are the four operators, of which one at most stands there, and the empty text, which is
taken where none of them does or where no number follows it.
-/

namespace TextGrammar.Arithmetic

open TextGrammar.Parser

/-! ### What a single pass reads -/

/-- At `next` stand blanks, the operator and blanks, and after them the number `right`, which ends
at `last`. -/
def Continues (next : Cursor) (operator : Operator) (right : UInt64) (last : Cursor) : Prop :=
  ∃ before after rest, Blanks before ∧ Blanks after ∧
    next.unread = (before ++ operator.symbol :: after) ++ rest ∧
    natural.parse (next.advance (before ++ operator.symbol :: after).length) =
      .success right last

/-- What a reader answers that goes through the text once: the failure of a first number that is
missing, the value of an operation, or a first number that no operation continues, before the
blanks behind it. -/
inductive SinglePass (cursor : Cursor) : Outcome Float → Prop where
  | missing {reason : Failure} (failed : natural.parse cursor = .failure reason) :
      SinglePass cursor (.failure reason)
  | operation {left right : UInt64} {operator : Operator} {next last : Cursor}
      (read : natural.parse cursor = .success left next)
      (continues : Continues next operator right last) :
      SinglePass cursor (.success (operator.apply left.toFloat right.toFloat) last)
  | alone {left : UInt64} {next : Cursor} (read : natural.parse cursor = .success left next)
      (stops : ∀ operator right last, ¬ Continues next operator right last) :
      SinglePass cursor (.success left.toFloat next)

section Continues

variable {cursor next last : Cursor} {operator : Operator} {left right : UInt64}

theorem not_startsWith_blank_of_parse_natural
    (read : natural.parse cursor = .success right last) : ¬ StartsWith isBlank cursor.unread := by
  obtain ⟨text, rest, unreadEq, ⟨numeral, _⟩, _⟩ :=
    ((reads_natural cursor).success_iff right last).mp read
  rw [unreadEq]
  exact numeral.not_startsWith_blank rest

/-- The blanks on both sides of the operator are all there are. -/
theorem continues_iff :
    Continues next operator right last ↔
      next.pastBlanks.current = some operator.symbol ∧
        natural.parse next.pastBlanks.next.pastBlanks = .success right last := by
  constructor
  -- Neither run of blanks can go on: an operator stands behind one, and a digit behind the other.
  · rintro ⟨before, after, rest, beforeBlanks, afterBlanks, unreadEq, read⟩
    have noBlank : ¬ StartsWith isBlank (operator.symbol :: (after ++ rest)) :=
      not_startsWith_cons operator.isBlank_symbol _
    rw [List.append_assoc, List.cons_append] at unreadEq
    have symbolPlace := Cursor.pastBlanks_eq_advance beforeBlanks unreadEq noBlank
    have symbolEq := Cursor.unread_pastBlanks_of_append beforeBlanks unreadEq noBlank
    have afterEq := Cursor.unread_next_of_unread symbolEq
    have numberPlace : next.advance (before ++ operator.symbol :: after).length =
        next.pastBlanks.next.advance after.length := by
      rw [List.length_append, List.length_cons, Cursor.advance_add, ← symbolPlace,
        Cursor.advance_succ]
    rw [numberPlace] at read
    have stopped := not_startsWith_blank_of_parse_natural read
    rw [Cursor.unread_advance_length afterEq] at stopped
    refine ⟨Cursor.current_of_unread symbolEq, ?_⟩
    rw [Cursor.pastBlanks_eq_advance afterBlanks afterEq stopped]
    exact read
  · rintro ⟨found, read⟩
    obtain ⟨rest, symbolEq⟩ := Cursor.exists_unread_of_current found
    have afterEq := Cursor.unread_next_of_unread symbolEq
    refine ⟨next.unread.takeWhile isBlank, rest.takeWhile isBlank, rest.dropWhile isBlank,
      blanks_takeWhile _, blanks_takeWhile _, ?_, ?_⟩
    · rw [List.append_assoc, List.cons_append, List.takeWhile_append_dropWhile, ← symbolEq,
        Cursor.unread_pastBlanks, List.takeWhile_append_dropWhile]
    · rw [List.length_append, List.length_cons, Cursor.advance_add, Cursor.advance_succ,
        ← afterEq]
      exact read

/-! ### The alternatives behind the first number -/

/-- Read an operator and a second number, and compute with a given first number. -/
def operationFrom (operator : Operator) (left : UInt64) : Parser Float :=
  (second (padded (char operator.symbol)) number).map (operator.apply left.toFloat)

theorem operation_eq_bind (operator : Operator) :
    operation operator = natural.bind (operationFrom operator) := by
  apply Parser.ext
  funext cursor
  simp only [operation, operationFrom, number, parse_lift2, parse_first, parse_bind, parse_map,
    parse_second, Outcome.map_eq_andThen, Outcome.andThen_assoc, Outcome.success_andThen]

theorem number_eq_bind : number = natural.bind fun left => succeed left.toFloat :=
  map_eq_bind natural UInt64.toFloat

/-- All alternatives begin with the same number. -/
theorem flat_eq_bind :
    flat = natural.bind fun left =>
      (choice (Operator.all.map (operationFrom · left))).orElse (succeed left.toFloat) := by
  have branches : flat = choice (Alternatives.map natural.bind
      ⟨operationFrom .add, operationFrom .sub,
        [operationFrom .mul, operationFrom .div, fun left => succeed left.toFloat]⟩) := by
    simp only [flat, operation_eq_bind, number_eq_bind]
    rfl
  rw [branches, choice_map_bind]
  -- Read to the right, the five alternatives are the four operators and then the number alone.
  congr 1
  funext left
  simp only [choice, Operator.all, Alternatives.map, List.map_cons, List.map_nil,
    firstSuccess_cons, firstSuccess_nil, orElse_assoc]

theorem parse_operationFrom (operator : Operator) (left : UInt64) (next : Cursor) :
    (operationFrom operator left).parse next =
      ((char operator.symbol).parse next.pastBlanks).andThen fun _ place =>
        (natural.parse place.pastBlanks).map fun right =>
          operator.apply left.toFloat right.toFloat := by
  simp only [operationFrom, number, parse_map, parse_second, parse_padded, Outcome.map_eq_andThen,
    Outcome.andThen_assoc, Outcome.success_andThen]

theorem parse_operationFrom_of_continues (continues : Continues next operator right last) :
    (operationFrom operator left).parse next =
      .success (operator.apply left.toFloat right.toFloat) last := by
  obtain ⟨found, read⟩ := continues_iff.mp continues
  rw [parse_operationFrom, parse_char_of_current found, Outcome.success_andThen, read,
    Outcome.map_success]

theorem exists_failure_of_not_continues
    (stops : ∀ right last, ¬ Continues next operator right last) :
    ∃ reason, (operationFrom operator left).parse next = .failure reason := by
  rw [parse_operationFrom]
  by_cases found : next.pastBlanks.current = some operator.symbol
  · rw [parse_char_of_current found, Outcome.success_andThen]
    cases read : natural.parse next.pastBlanks.next.pastBlanks with
    | success right last => exact absurd (continues_iff.mpr ⟨found, read⟩) (stops right last)
    | failure reason => exact ⟨reason, rfl⟩
    | endless => exact absurd read (reads_natural _).returns
  · exact ⟨_, by rw [parse_char_of_ne found, Outcome.failure_andThen]⟩

/-- One operator at most stands behind the blanks. -/
theorem Continues.operator_eq {other : Operator} {otherRight : UInt64} {otherLast : Cursor}
    (continues : Continues next operator right last)
    (otherContinues : Continues next other otherRight otherLast) : other = operator := by
  obtain ⟨found, _⟩ := continues_iff.mp continues
  obtain ⟨otherFound, _⟩ := continues_iff.mp otherContinues
  exact Operator.symbol_inj.mp (Option.some.inj (otherFound.symm.trans found))

end Continues

/-! ### The single pass -/

/-- A missing number is missed by every alternative; an operation is read by the alternative of its
operator; and where none of the four goes on, the number stands alone. -/
theorem SinglePass.parse_flat {cursor : Cursor} {outcome : Outcome Float}
    (pass : SinglePass cursor outcome) : flat.parse cursor = outcome := by
  rw [flat_eq_bind, parse_bind]
  cases pass with
  | missing failed => rw [failed, Outcome.failure_andThen]
  | @operation left right operator next last read continues =>
      have others : ∀ other, other ≠ operator → ∃ reason,
          (operationFrom other left).parse next = .failure reason := fun other different =>
        exists_failure_of_not_continues fun otherRight otherLast otherContinues =>
          different (continues.operator_eq otherContinues)
      rw [read, Outcome.success_andThen, parse_orElse, parse_choice_of_success operator
        (parse_operationFrom_of_continues continues) others, Outcome.success_orElse]
  | @alone left next read stops =>
      have failing : ∀ operator, ∃ reason,
          (operationFrom operator left).parse next = .failure reason := fun operator =>
        exists_failure_of_not_continues (stops operator)
      obtain ⟨reasons, failed⟩ := Classical.skolem.mp failing
      rw [read, Outcome.success_andThen, parse_orElse, parse_choice_of_failures reasons failed,
        Outcome.failure_orElse, parse_succeed]

/-- Every cursor has a single pass, since numbers are read or fail. -/
theorem exists_singlePass (cursor : Cursor) : ∃ outcome, SinglePass cursor outcome := by
  cases read : natural.parse cursor with
  | endless => exact absurd read (reads_natural cursor).returns
  | failure reason => exact ⟨_, .missing read⟩
  | success left next =>
      by_cases goesOn : ∃ operator right last, Continues next operator right last
      · obtain ⟨operator, right, last, continues⟩ := goesOn
        exact ⟨_, .operation read continues⟩
      · exact ⟨_, .alone read fun operator right last continues =>
          goesOn ⟨operator, right, last, continues⟩⟩

/-! ### Operations and their trees -/

/-- Two numbers as they are written, with an operator and any blanks between them. -/
structure WrittenOperation where
  left : WrittenNumber
  before : List Char
  operator : Operator
  after : List Char
  right : WrittenNumber
  beforeBlanks : Blanks before
  afterBlanks : Blanks after

namespace WrittenOperation

/-- The text of an operation. -/
def text (written : WrittenOperation) : List Char :=
  written.left.digits ++
    ((written.before ++ written.operator.symbol :: written.after) ++ written.right.digits)

/-- The tree of an operation. -/
def tree (written : WrittenOperation) : Tree :=
  .operation written.operator (.literal written.left.value.toFloat)
    (.literal written.right.value.toFloat)

theorem rendering (written : WrittenOperation) :
    Tree.Rendering written.tree ('(' :: (written.text ++ [')'])) := by
  have rendering : Tree.Rendering written.tree _ :=
    .operation (.literal written.left.numeral) (.literal written.right.numeral) blanks_nil
      written.beforeBlanks written.afterBlanks blanks_nil
  simpa [text] using rendering

/-- Where no digit follows, an operation is read to its end. -/
theorem singlePass (written : WrittenOperation) {tail : List Char} {cursor : Cursor}
    (noDigit : ¬ StartsWith Char.isDigit tail) (unreadEq : cursor.unread = written.text ++ tail) :
    ∃ last, SinglePass cursor (.success written.tree.eval last) ∧ last.unread = tail := by
  obtain ⟨left, before, operator, after, right, beforeBlanks, afterBlanks⟩ := written
  rw [text, List.append_assoc, List.append_assoc] at unreadEq
  have gapStops : ¬ StartsWith Char.isDigit
      (before ++ operator.symbol :: after ++ (right.digits ++ tail)) := by
    rw [List.append_assoc]
    exact beforeBlanks.not_startsWith_digit (not_startsWith_cons operator.isDigit_symbol _)
  obtain ⟨next, readLeft, nextEq⟩ := left.parse_natural unreadEq gapStops
  obtain ⟨last, readRight, lastEq⟩ :=
    right.parse_natural (Cursor.unread_advance_length nextEq) noDigit
  exact ⟨last, .operation readLeft ⟨before, after, _, beforeBlanks, afterBlanks, nextEq, readRight⟩,
    lastEq⟩

end WrittenOperation

/-- The grammar with five alternatives answers what a single pass answers: the failure of the first
number, an operation, or the number alone. On the text of an operation it comes to the value of the
tree that the parser of expressions reads from that text in parentheses. -/
theorem flat_eq_singlePass :
    (∀ cursor outcome, flat.parse cursor = outcome ↔ SinglePass cursor outcome) ∧
    ∀ (written : WrittenOperation) (tail : List Char) (cursor : Cursor),
      ¬ StartsWith Char.isDigit tail → cursor.unread = written.text ++ tail →
      ∃ tree closing last,
        Tree.parser.parse (Cursor.ofChars ('(' :: (written.text ++ [')']))) =
          .success tree closing ∧ closing.unread = [] ∧
        flat.parse cursor = .success tree.eval last ∧ last.unread = tail := by
  refine ⟨fun cursor outcome => ⟨?_, SinglePass.parse_flat⟩, ?_⟩
  · rintro rfl
    obtain ⟨outcome, pass⟩ := exists_singlePass cursor
    rw [pass.parse_flat]
    exact pass
  · intro written tail cursor noDigit unreadEq
    obtain ⟨closing, readTree, closingEq⟩ := parse_tree_of_rendering written.rendering
    obtain ⟨last, pass, lastEq⟩ := written.singlePass noDigit unreadEq
    exact ⟨written.tree, closing, last, readTree, closingEq, pass.parse_flat, lastEq⟩

/-- An operation before a semicolon, an operator that a letter follows, and a letter alone. -/
theorem flat_eq_singlePass_before_semicolon_and_letters :
    (∃ tree closing last,
      Tree.parser.parse (Cursor.ofChars "(12 +\t3)".toList) = .success tree closing ∧
        closing.unread = [] ∧
      flat.parse (Cursor.ofText "12 +\t3;") = .success tree.eval last ∧ last.unread = [';']) ∧
    flat.parse (Cursor.ofText "7 + x") =
      .success (UInt64.toFloat 7) (.inside ['7'] [' ', '+', ' ', 'x']) ∧
    flat.parse (Cursor.ofText "x") = .failure .emptyRepetition := by
  obtain ⟨same, trees⟩ := flat_eq_singlePass
  let twelve : WrittenNumber := ⟨12, ['1', '2'], by simp, by simp, rfl⟩
  let three : WrittenNumber := ⟨3, ['3'], by simp, by simp, rfl⟩
  let sum : WrittenOperation :=
    ⟨twelve, [' '], .add, ['\t'], three, by decide, by decide⟩
  have inParentheses : "(12 +\t3)".toList = '(' :: (sum.text ++ [')']) := rfl
  refine ⟨?_, ?_, ?_⟩
  · rw [inParentheses]
    exact trees sum [';'] (Cursor.ofText "12 +\t3;") (by decide) rfl
  · refine (same _ _).mpr (.alone rfl fun operator right last continues => ?_)
    obtain ⟨_, read⟩ := continues_iff.mp continues
    contradiction
  · exact (same _ _).mpr (.missing rfl)

end TextGrammar.Arithmetic
