import TextGrammar.Proofs.Lexemes
import TextGrammar.Proofs.Repetition
import TextGrammar.Proofs.SeparatedRuns

/-!
Contract: a committed list as a repetition, and what a separator after the repetition decides.

Owns:
- that the loop of a committed list goes through the rounds of the repetition of a separator and an
  element, and differs from it only in the round that ends it;
- that a committed list whose separator never fails does not succeed;
- the outcome of a committed list, from its first element, the repetition after it and the separator
  after that.

The repetition undoes a separator that no element follows. The committed list has taken it for a
promise and fails, but only then: where the separator fails, both stop at the same place.
-/

namespace TextGrammar

namespace Parser

variable {α β : Type} {parser : Parser α} {separator : Parser β} {cursor next last : Cursor}
  {value : α} {values : List α}

/-! ### The two loops -/

/-- Within any number of rounds, the committed list answers what the repetition answers where no
separator follows, and fails as the element does where one follows. -/
private theorem moreWithin_of_repeatWithin {rounds : Nat}
    (repeated : repeatWithin (second separator parser) rounds cursor = .success values last) :
    (∀ reason, separator.parse last = .failure reason →
      moreWithin parser separator rounds cursor = .success values last) ∧
    ∀ mark after, separator.parse last = .success mark after →
      ∃ reason, parser.parse after = .failure reason ∧
        moreWithin parser separator rounds cursor = .failure reason := by
  -- By induction on the rounds. Both loops run the separator first, so they part only in the round
  -- whose element fails, which is the last one of the repetition.
  induction rounds generalizing cursor values with
  | zero => contradiction
  | succ rounds inductionHypothesis =>
      rw [moreWithin_succ]
      rcases repeatWithin_succ_eq_success_iff.mp repeated with
        ⟨_, failed, rfl, rfl⟩ | ⟨value, next, others, read, readOthers, rfl⟩
      · rw [parse_second, Outcome.andThen_eq_failure_iff] at failed
        rcases failed with stopped | ⟨mark, after, separated, failed⟩
        · simp [stopped]
        · simp [separated, failed]
      · rw [parse_second, Outcome.andThen_eq_success_iff] at read
        obtain ⟨mark, after, separated, readElement⟩ := read
        obtain ⟨complete, dangling⟩ := inductionHypothesis readOthers
        constructor
        · intro reason stopped
          simp [separated, readElement, complete reason stopped]
        · intro lastMark afterLast left
          obtain ⟨reason, failed, failedList⟩ := dangling lastMark afterLast left
          exact ⟨reason, failed, by simp [separated, readElement, failedList]⟩

theorem parse_separatedList_of_stopped (read : parser.parse cursor = .success value next)
    (repeated : (second separator parser).many.parse next = .success values last)
    {reason : Failure} (stopped : separator.parse last = .failure reason) :
    (separatedList parser separator).parse cursor = .success (value :: values) last := by
  rw [parse_separatedList, read, Outcome.success_andThen,
    (moreWithin_of_repeatWithin repeated).1 reason stopped, Outcome.map_success]

theorem exists_parse_separatedList_of_separated (read : parser.parse cursor = .success value next)
    (repeated : (second separator parser).many.parse next = .success values last)
    {mark : β} {after : Cursor} (separated : separator.parse last = .success mark after) :
    ∃ reason, parser.parse after = .failure reason ∧
      (separatedList parser separator).parse cursor = .failure reason := by
  obtain ⟨_, dangling⟩ := moreWithin_of_repeatWithin repeated
  obtain ⟨reason, failed, failedList⟩ := dangling mark after separated
  refine ⟨reason, failed, ?_⟩
  rw [parse_separatedList, read, Outcome.success_andThen, failedList, Outcome.map_failure]

/-! ### Separators that never fail -/

/-- A committed list ends only where its separator fails. -/
theorem NeverFails.parse_separatedList_ne_success (neverFails : separator.NeverFails)
    (consumes : parser.Consumes) (advances : separator.Advances) (cursor : Cursor)
    (values : List α) (last : Cursor) :
    (separatedList parser separator).parse cursor ≠ .success values last := by
  intro read
  have ending := listEnding_separatedList consumes advances cursor
  rw [read] at ending
  cases ending with
  | complete run stopped => exact neverFails last _ stopped

theorem neverFails_blanks : blanks.NeverFails :=
  (neverFails_many blank).map fun _ => ()

/-! ### What decides a committed list -/

/-- A committed list fails as its first element does. After that element come the repetitions of a
separator and an element. Where no separator follows them, the list has succeeded, at the place
before that separator. Where one follows, the list fails as the element after it does. So a
separator that cannot fail, such as blanks, an optional value or a repetition, leaves no success. -/
theorem separatedList_decided_by_separator_after_repetition (consumes : parser.Consumes)
    (advances : separator.Advances) (cursor : Cursor) :
    (∀ reason, parser.parse cursor = .failure reason →
      (separatedList parser separator).parse cursor = .failure reason) ∧
    (∀ value next, parser.parse cursor = .success value next →
      (parser.Total → separator.Total → ∃ values last,
        (second separator parser).many.parse next = .success values last) ∧
      ∀ values last, (second separator parser).many.parse next = .success values last →
        (∀ reason, separator.parse last = .failure reason →
          (separatedList parser separator).parse cursor = .success (value :: values) last) ∧
        ∀ mark after, separator.parse last = .success mark after →
          ∃ reason, parser.parse after = .failure reason ∧
            (separatedList parser separator).parse cursor = .failure reason) ∧
    (separator.NeverFails →
      ∀ values last, (separatedList parser separator).parse cursor ≠ .success values last) ∧
    (∀ values last, (separatedList parser blanks).parse cursor ≠ .success values last) ∧
    ∀ {γ : Type} (other : Parser γ), other.Advances → ∀ values last,
      (separatedList parser other.optional).parse cursor ≠ .success values last ∧
      (separatedList parser other.many).parse cursor ≠ .success values last := by
  have roundConsumes : (second separator parser).Consumes := .second_of_advances advances consumes
  refine ⟨fun reason failed => parse_separatedList_of_failure failed, ?_, ?_, ?_, ?_⟩
  · intro value next read
    refine ⟨fun total separatorTotal => ?_, fun values last repeated => ⟨?_, ?_⟩⟩
    · exact (separatorTotal.second total).exists_parse_many roundConsumes next
    · intro reason stopped
      exact parse_separatedList_of_stopped read repeated stopped
    · intro mark after separated
      exact exists_parse_separatedList_of_separated read repeated separated
  · intro neverFails
    exact neverFails.parse_separatedList_ne_success consumes advances cursor
  · exact neverFails_blanks.parse_separatedList_ne_success consumes reads_blanks.advances cursor
  · intro γ other otherAdvances values last
    constructor
    · exact (neverFails_optional other).parse_separatedList_ne_success consumes
        otherAdvances.optional cursor values last
    · exact (neverFails_many other).parse_separatedList_ne_success consumes
        otherAdvances.many cursor values last

/-- Commas between blanks, in front of another character, of the end of the text, and of no element
at all; and letters with nothing between them but blanks, or but a comma that may be missing. -/
theorem separatedList_of_letters_decided_by_padded_comma :
    let list := separatedList (char 'a') (padded (char ','))
    (∃ values last, (second (padded (char ',')) (char 'a')).many.parse
      (.inside ['a'] [' ', ',', ' ', 'a', ' ', ';']) = .success values last) ∧
    list.parse (Cursor.ofText "a , a ;") =
      .success ['a', 'a'] (.inside ['a', ' ', ',', ' ', 'a'] [' ', ';']) ∧
    list.parse (Cursor.ofText "a , ") = .failure (.charMismatch 'a' none) ∧
    list.parse (Cursor.ofText ",a") = .failure (.charMismatch 'a' (some ',')) ∧
    (∀ values last, (separatedList (char 'a') blanks).parse (Cursor.ofText "a a") ≠
      .success values last) ∧
    ∀ values last, (separatedList (char 'a') (char ',').optional).parse (Cursor.ofText "a,a") ≠
      .success values last := by
  intro list
  have consumes : (char 'a').Consumes := (reads_char 'a').consumes (Language.proper_character 'a')
  have total : (char 'a').Total := fun cursor => (reads_char 'a' cursor).returns
  have commaReads := (reads_char ',').padded
  have commaTotal : (padded (char ',')).Total := fun cursor => (commaReads cursor).returns
  have decided := separatedList_decided_by_separator_after_repetition consumes commaReads.advances
  have ofBlanks := separatedList_decided_by_separator_after_repetition consumes
    reads_blanks.advances
  have ofComma := separatedList_decided_by_separator_after_repetition consumes
    (reads_char ',').advances
  have read : (char 'a').parse (Cursor.ofText "a , a ;") =
      .success 'a' (.inside ['a'] [' ', ',', ' ', 'a', ' ', ';']) := rfl
  obtain ⟨_, goesOn, _⟩ := decided (Cursor.ofText "a , a ;")
  obtain ⟨repeats, ends⟩ := goesOn 'a' _ read
  refine ⟨repeats total commaTotal, ?_, ?_, ?_, ?_, ?_⟩
  · exact (ends ['a'] _ rfl).1 (.charMismatch ',' (some ';')) rfl
  · obtain ⟨_, goesOn, _⟩ := decided (Cursor.ofText "a , ")
    obtain ⟨_, ends⟩ := goesOn 'a' (.inside ['a'] [' ', ',', ' ']) rfl
    obtain ⟨reason, failed, failedList⟩ := (ends [] _ rfl).2 ',' (.atEnd [' ', ',', ' ', 'a']) rfl
    cases failed
    exact failedList
  · exact (decided (Cursor.ofText ",a")).1 _ rfl
  · obtain ⟨_, _, never, _⟩ := ofBlanks (Cursor.ofText "a a")
    exact never neverFails_blanks
  · intro values last
    obtain ⟨_, _, _, _, never⟩ := ofComma (Cursor.ofText "a,a")
    exact (never (char ',') (reads_char ',').advances values last).1

end Parser

end TextGrammar
