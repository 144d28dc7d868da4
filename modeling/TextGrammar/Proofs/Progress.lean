import TextGrammar.Parser.Alternation
import TextGrammar.Parser.Separated

/-!
Contract: how far a success takes a parser, and the loops that end because of it.

Owns:
- `Advances`: a success stands some steps ahead, and no further than the text goes;
- `Consumes`: a success leaves less to read than there was;
- `Total`: a run returns, wherever it begins;
- the equations of `many` and `separatedList` in which the bounds on their rounds are gone, and that
  `many` returns.

The bounds of the loops count places ahead. A round that consumes leaves fewer of them, so the
bound is never met, and what a loop answers does not depend on it.
-/

namespace TextGrammar

namespace Parser

variable {α β γ : Type}

/-- A success stands some steps ahead, and no further than the text goes. -/
def Advances (parser : Parser α) : Prop :=
  ∀ cursor value next, parser.parse cursor = .success value next →
    ∃ steps, steps ≤ cursor.unread.length ∧ next = cursor.advance steps

/-- A success leaves less to read than there was. -/
def Consumes (parser : Parser α) : Prop :=
  ∀ cursor value next, parser.parse cursor = .success value next →
    next.unread.length < cursor.unread.length

/-- A run returns, wherever it begins. -/
def Total (parser : Parser α) : Prop :=
  ∀ cursor, (parser.parse cursor).Returns

theorem Advances.unread_length_le {parser : Parser α} (advances : parser.Advances)
    {cursor next : Cursor} {value : α} (read : parser.parse cursor = .success value next) :
    next.unread.length ≤ cursor.unread.length := by
  obtain ⟨steps, _, rfl⟩ := advances cursor value next read
  rw [Cursor.unread_advance, List.length_drop]
  omega

theorem Advances.map {parser : Parser α} (advances : parser.Advances) (f : α → β) :
    (parser.map f).Advances := by
  intro cursor value next read
  rw [parse_map, Outcome.map_eq_success_iff] at read
  obtain ⟨first, readFirst, _⟩ := read
  exact advances cursor first next readFirst

/-- Two parsers in a row take the steps of the one and then those of the other. -/
theorem Advances.bind {parser : Parser α} {next : α → Parser β} (advances : parser.Advances)
    (nextAdvances : ∀ value, (next value).Advances) :
    (parser.bind next).Advances := by
  intro cursor value last read
  rw [parse_bind, Outcome.andThen_eq_success_iff] at read
  obtain ⟨first, between, readFirst, readNext⟩ := read
  obtain ⟨firstSteps, firstBound, rfl⟩ := advances cursor first between readFirst
  obtain ⟨nextSteps, nextBound, rfl⟩ := nextAdvances first _ value last readNext
  rw [Cursor.unread_advance, List.length_drop] at nextBound
  refine ⟨firstSteps + nextSteps, by omega, ?_⟩
  rw [Cursor.advance_add]

/-- A pair is a continuation that does not look at the value. -/
theorem both_eq_bind (left : Parser α) (right : Parser β) :
    left.both right = left.bind fun value => right.map (Prod.mk value) := by
  apply Parser.ext
  funext cursor
  rw [parse_both, parse_bind]
  rfl

/-- A function is a continuation that maps its argument. -/
theorem apply_eq_bind (function : Parser (α → β)) (argument : Parser α) :
    function.apply argument = function.bind argument.map := by
  apply Parser.ext
  funext cursor
  rw [parse_apply, parse_bind]
  rfl

/-- An element continues with the separator, or else stops. -/
theorem element_eq_bind (parser : Parser α) (separator : Parser β) :
    element parser separator =
      parser.bind fun value => (separator.map fun _ => value).orElse (succeed value) :=
  rfl

/-- A committed list continues with separators and elements. -/
theorem separatedList_eq_bind (parser : Parser α) (separator : Parser β) :
    separatedList parser separator =
      parser.bind fun value =>
        Parser.map (value :: ·) ⟨fun next => parser.moreWithin separator next.horizon next⟩ :=
  rfl

theorem Advances.both {left : Parser α} {right : Parser β} (leftAdvances : left.Advances)
    (rightAdvances : right.Advances) :
    (left.both right).Advances := by
  rw [both_eq_bind]
  exact leftAdvances.bind fun value => rightAdvances.map (Prod.mk value)

theorem Advances.first {kept : Parser α} {dropped : Parser β} (keptAdvances : kept.Advances)
    (droppedAdvances : dropped.Advances) :
    (first kept dropped).Advances :=
  (keptAdvances.both droppedAdvances).map Prod.fst

theorem Advances.second {dropped : Parser α} {kept : Parser β}
    (droppedAdvances : dropped.Advances) (keptAdvances : kept.Advances) :
    (second dropped kept).Advances :=
  (droppedAdvances.both keptAdvances).map Prod.snd

theorem Advances.orElse {preferred alternative : Parser α}
    (preferredAdvances : preferred.Advances) (alternativeAdvances : alternative.Advances) :
    (preferred.orElse alternative).Advances := by
  intro cursor value next read
  rw [parse_orElse, Outcome.orElse_eq_success_iff] at read
  rcases read with read | ⟨_, read⟩
  · exact preferredAdvances cursor value next read
  · exact alternativeAdvances cursor value next read

/-- After anything that advances, a parser that consumes makes the pair consume. -/
theorem Consumes.second_of_advances {dropped : Parser α} {kept : Parser β}
    (droppedAdvances : dropped.Advances) (keptConsumes : kept.Consumes) :
    (second dropped kept).Consumes := by
  intro cursor value next read
  rw [parse_second, Outcome.andThen_eq_success_iff] at read
  obtain ⟨dropped, between, readDropped, readKept⟩ := read
  have keptShorter := keptConsumes between value next readKept
  have droppedShorter := droppedAdvances.unread_length_le readDropped
  omega

theorem Total.element {parser : Parser α} {separator : Parser β} (total : parser.Total)
    (separatorTotal : separator.Total) : (element parser separator).Total := by
  intro cursor
  have returns : (parser.parse cursor).Returns := total cursor
  rw [parse_element]
  refine returns.andThen fun value next => ?_
  have separatorReturns : (separator.parse next).Returns := separatorTotal next
  exact (separatorReturns.map _).orElse (Outcome.returns_success value next)

section Element

variable {parser : Parser α} {separator : Parser β} {cursor next after : Cursor} {value : α}
  {mark : β}

/-- An element can do without its separator, so it fails only as its parser does. -/
theorem parse_element_eq_failure_iff {reason : Failure} :
    (element parser separator).parse cursor = .failure reason ↔
      parser.parse cursor = .failure reason := by
  rw [parse_element]
  cases read : parser.parse cursor with
  | failure other => simp
  | endless => simp
  | success value next => cases separated : separator.parse next <;> simp [separated]

theorem parse_element_of_separator (read : parser.parse cursor = .success value next)
    (separated : separator.parse next = .success mark after) :
    (element parser separator).parse cursor = .success value after := by
  simp [parse_element, read, separated]

theorem parse_element_of_stop {reason : Failure}
    (read : parser.parse cursor = .success value next)
    (stopped : separator.parse next = .failure reason) :
    (element parser separator).parse cursor = .success value next := by
  simp [parse_element, read, stopped]

/-- The separator that an element takes along cannot give back what the element has read. -/
theorem Consumes.element (consumes : parser.Consumes) (advances : separator.Advances) :
    (element parser separator).Consumes := by
  intro cursor value last read
  rw [parse_element, Outcome.andThen_eq_success_iff] at read
  obtain ⟨first, next, readFirst, kept⟩ := read
  have shorter := consumes cursor first next readFirst
  cases separated : separator.parse next with
  | failure reason =>
      simp only [separated, Outcome.map_failure, Outcome.failure_orElse,
        Outcome.success.injEq] at kept
      rw [← kept.2]
      exact shorter
  | endless => simp [separated] at kept
  | success mark after =>
      simp only [separated, Outcome.map_success, Outcome.success_orElse,
        Outcome.success.injEq] at kept
      have notLonger := advances.unread_length_le separated
      rw [← kept.2]
      omega

end Element

/-! ### Repetition -/

section Repetition

variable {parser : Parser α} {cursor next : Cursor} {value : α}

/-- Two bounds that are large enough give the same answer. -/
private theorem repeatWithin_eq_of_consumes (consumes : parser.Consumes) (runs others : Nat)
    (cursor : Cursor) (runsSuffice : cursor.unread.length < runs)
    (othersSuffice : cursor.unread.length < others) :
    repeatWithin parser runs cursor = repeatWithin parser others cursor := by
  induction runs generalizing others cursor with
  | zero => omega
  | succ runs inductionHypothesis =>
      cases others with
      | zero => omega
      | succ others =>
          rw [repeatWithin_succ, repeatWithin_succ]
          cases read : parser.parse cursor with
          | failure reason => rfl
          | endless => rfl
          | success value next =>
              have shorter := consumes cursor value next read
              dsimp only
              rw [inductionHypothesis others next (by omega) (by omega)]

theorem parse_many_of_success (consumes : parser.Consumes)
    (read : parser.parse cursor = .success value next) :
    parser.many.parse cursor = (parser.many.parse next).map (value :: ·) := by
  have shorter := consumes cursor value next read
  rw [parse_many, parse_many, Cursor.horizon, repeatWithin_succ, read]
  dsimp only
  rw [repeatWithin_eq_of_consumes consumes _ next.horizon next (by omega)
    (by unfold Cursor.horizon; omega)]

theorem parse_many_of_failure {reason : Failure}
    (failed : parser.parse cursor = .failure reason) :
    parser.many.parse cursor = .success [] cursor := by
  rw [parse_many, Cursor.horizon, repeatWithin_succ, failed]

theorem parse_many_of_endless (endless : parser.parse cursor = .endless) :
    parser.many.parse cursor = .endless := by
  rw [parse_many, Cursor.horizon, repeatWithin_succ, endless]

/-- Only a failure in its first round leaves a repetition empty. -/
theorem exists_failure_of_parse_many_nil (read : parser.many.parse cursor = .success [] next) :
    ∃ reason, parser.parse cursor = .failure reason := by
  rw [parse_many, Cursor.horizon, repeatWithin_succ_eq_success_iff] at read
  rcases read with ⟨reason, failed, _⟩ | ⟨value, after, others, _, _, valuesEq⟩
  · exact ⟨reason, failed⟩
  · contradiction

theorem Total.exists_parse_many (total : parser.Total) (consumes : parser.Consumes)
    (cursor : Cursor) :
    ∃ values next, parser.many.parse cursor = .success values next := by
  -- By induction on what is left to read, which each round makes shorter.
  induction lengthEq : cursor.unread.length using Nat.strongRecOn generalizing cursor with
  | ind length inductionHypothesis =>
      cases read : parser.parse cursor with
      | endless => exact absurd read (total cursor)
      | failure reason => exact ⟨[], cursor, parse_many_of_failure read⟩
      | success value next =>
          have shorter := consumes cursor value next read
          obtain ⟨values, last, readOthers⟩ := inductionHypothesis _ (by omega) next rfl
          refine ⟨value :: values, last, ?_⟩
          rw [parse_many_of_success consumes read, readOthers, Outcome.map_success]

theorem parse_many1_of_failure {reason : Failure}
    (failed : parser.parse cursor = .failure reason) :
    parser.many1.parse cursor = .failure .emptyRepetition := by
  rw [parse_many1, parse_many_of_failure failed]
  rfl

theorem parse_separatedBy_of_failure {separator : Parser β} {reason : Failure}
    (failed : parser.parse cursor = .failure reason) :
    (separatedBy parser separator).parse cursor = .failure .emptyRepetition :=
  parse_many1_of_failure (parse_element_eq_failure_iff.mpr failed)

end Repetition

/-! ### Lists that commit to their separators -/

section SeparatedList

variable {parser : Parser α} {separator : Parser β} {cursor next afterSeparator : Cursor}
  {value : α} {mark : β}

/-- Two bounds that are large enough give the same answer. -/
private theorem moreWithin_eq_of_consumes (consumes : (second separator parser).Consumes)
    (rounds others : Nat) (cursor : Cursor) (roundsSuffice : cursor.unread.length < rounds)
    (othersSuffice : cursor.unread.length < others) :
    moreWithin parser separator rounds cursor = moreWithin parser separator others cursor := by
  induction rounds generalizing others cursor with
  | zero => omega
  | succ rounds inductionHypothesis =>
      cases others with
      | zero => omega
      | succ others =>
          rw [moreWithin_succ, moreWithin_succ]
          cases separated : separator.parse cursor with
          | failure reason => rfl
          | endless => rfl
          | success mark afterSeparator =>
              dsimp only
              cases read : parser.parse afterSeparator with
              | failure reason => rfl
              | endless => rfl
              | success value next =>
                  have shorter := consumes cursor value next (by
                    rw [parse_second, separated, Outcome.success_andThen, read])
                  rw [Outcome.success_andThen, Outcome.success_andThen,
                    inductionHypothesis others next (by omega) (by omega)]

theorem parse_separatedList_of_failure {reason : Failure}
    (failed : parser.parse cursor = .failure reason) :
    (separatedList parser separator).parse cursor = .failure reason := by
  rw [parse_separatedList, failed, Outcome.failure_andThen]

theorem parse_separatedList_of_last {reason : Failure}
    (read : parser.parse cursor = .success value next)
    (stopped : separator.parse next = .failure reason) :
    (separatedList parser separator).parse cursor = .success [value] next := by
  rw [parse_separatedList, read, Outcome.success_andThen, Cursor.horizon, moreWithin_succ,
    stopped]
  rfl

/-- After a separator the list goes on like a list that begins there, and fails if that one
does. -/
theorem parse_separatedList_of_more (consumes : (second separator parser).Consumes)
    (read : parser.parse cursor = .success value next)
    (separated : separator.parse next = .success mark afterSeparator) :
    (separatedList parser separator).parse cursor =
      ((separatedList parser separator).parse afterSeparator).map (value :: ·) := by
  rw [parse_separatedList, parse_separatedList, read, Outcome.success_andThen, Cursor.horizon,
    moreWithin_succ, separated]
  dsimp only
  cases readNext : parser.parse afterSeparator with
  | failure reason => rfl
  | endless => rfl
  | success following last =>
      have shorter := consumes next following last (by
        rw [parse_second, separated, Outcome.success_andThen, readNext])
      rw [Outcome.success_andThen, Outcome.success_andThen,
        moreWithin_eq_of_consumes consumes _ last.horizon last (by omega)
          (by unfold Cursor.horizon; omega)]

end SeparatedList

end Parser

end TextGrammar
