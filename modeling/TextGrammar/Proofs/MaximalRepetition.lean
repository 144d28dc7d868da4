import TextGrammar.Proofs.LoopBounds

/-!
Contract: a repetition as the longest sequence of copies of one parser.

Owns:
- the successes of `many` as those of the sequences that the parser cannot go on from;
- how many copies of the parser a sequence can have, and that a longer one fails as the parser does
  where the repetition stops;
- the equation of the loop, in which it begins anew after each value.

The number of copies is not known before the loop has run. What decides it is the first place at
which the parser fails, and that failure may come after some of the text has been read.
-/

namespace TextGrammar

namespace Parser

variable {α : Type} {parser : Parser α} {cursor next last : Cursor} {value : α} {values : List α}
  {reason : Failure}

theorem many_eq_orElse (consumes : parser.Consumes) :
    parser.many =
      (lift2 (fun value values => value :: values) parser parser.many).orElse (succeed []) := by
  apply Parser.ext
  funext cursor
  rw [parse_orElse, parse_lift2]
  cases read : parser.parse cursor with
  | failure reason => exact parse_many_of_failure read
  | endless => exact parse_many_of_endless read
  | success value next =>
      rw [parse_many_of_success consumes read, Outcome.success_andThen]
      cases others : parser.many.parse next with
      | success values last => rfl
      | failure reason => exact absurd others (neverFails_many parser next reason)
      | endless => rfl

/-! ### Copies of a parser -/

/-- A repetition reads what as many copies of its parser read, and stops where one more fails. -/
theorem parse_many_eq_success_iff (consumes : parser.Consumes) :
    parser.many.parse cursor = .success values last ↔
      (sequence (List.replicate values.length parser)).parse cursor = .success values last ∧
        ∃ reason, parser.parse last = .failure reason := by
  -- By induction on the values: the loop and the sequence run the parser for each in turn.
  induction values generalizing cursor with
  | nil =>
      rw [List.length_nil, List.replicate_zero, parse_sequence_nil]
      constructor
      · intro read
        obtain ⟨reason, failed⟩ := exists_failure_of_parse_many_nil read
        rw [parse_many_of_failure failed] at read
        cases read
        exact ⟨rfl, reason, failed⟩
      · rintro ⟨same, reason, failed⟩
        cases same
        exact parse_many_of_failure failed
  | cons value values inductionHypothesis =>
      rw [List.length_cons, List.replicate_succ, parse_sequence_cons]
      cases read : parser.parse cursor with
      | failure reason => simp [parse_many_of_failure read]
      | endless => simp [parse_many_of_endless read]
      | success first next =>
          rw [parse_many_of_success consumes read, Outcome.success_andThen]
          simp only [Outcome.map_eq_success_iff, List.cons.injEq]
          constructor
          · rintro ⟨others, readOthers, rfl, rfl⟩
            obtain ⟨copies, stopped⟩ := inductionHypothesis.mp readOthers
            exact ⟨⟨others, copies, rfl, rfl⟩, stopped⟩
          · rintro ⟨⟨others, copies, rfl, rfl⟩, stopped⟩
            exact ⟨others, inductionHypothesis.mpr ⟨copies, stopped⟩, rfl, rfl⟩

/-- More copies than the repetition has values fail where it stopped. -/
theorem parse_sequence_replicate_of_lt
    (copies : (sequence (List.replicate values.length parser)).parse cursor = .success values last)
    (failed : parser.parse last = .failure reason) {count : Nat} (more : values.length < count) :
    (sequence (List.replicate count parser)).parse cursor = .failure reason := by
  obtain ⟨extra, rfl⟩ : ∃ extra, count = values.length + (extra + 1) :=
    ⟨count - values.length - 1, by omega⟩
  rw [← List.replicate_append_replicate, parse_sequence_append, copies, Outcome.success_andThen,
    List.replicate_succ, parse_sequence_cons, failed, Outcome.failure_andThen, Outcome.map_failure]

/-- With fewer copies, the values are the first ones of the repetition. -/
theorem exists_parse_sequence_replicate_of_le
    (copies : (sequence (List.replicate values.length parser)).parse cursor = .success values last)
    {count : Nat} (fewer : count ≤ values.length) :
    ∃ place, (sequence (List.replicate count parser)).parse cursor =
      .success (values.take count) place := by
  -- Cut the sequence after `count` copies; the values in front of the cut are as many.
  obtain ⟨extra, lengthEq⟩ := Nat.exists_eq_add_of_le fewer
  rw [lengthEq, ← List.replicate_append_replicate, parse_sequence_append,
    Outcome.andThen_eq_success_iff] at copies
  obtain ⟨found, place, read, readOthers⟩ := copies
  obtain ⟨others, _, rfl⟩ := Outcome.map_eq_success_iff.mp readOthers
  have foundLength : found.length = count := by
    rw [length_of_parse_sequence read, List.length_replicate]
  exact ⟨place, by rw [read, ← foundLength, List.take_left]⟩

/-! ### What follows a repetition -/

theorem parse_many_both_of_stopped (read : parser.many.parse cursor = .success values last)
    (failed : parser.parse last = .failure reason) :
    (parser.many.both parser).parse cursor = .failure reason := by
  rw [parse_both, read, Outcome.success_andThen, failed, Outcome.map_failure]

theorem parse_many_both_many_of_stopped (read : parser.many.parse cursor = .success values last)
    (failed : parser.parse last = .failure reason) :
    (parser.many.both parser.many).parse cursor = .success (values, []) last := by
  rw [parse_both, read, Outcome.success_andThen, parse_many_of_failure failed, Outcome.map_success]

theorem parse_many1_of_success (consumes : parser.Consumes)
    (read : parser.parse cursor = .success value next) :
    parser.many1.parse cursor = parser.many.parse cursor := by
  rw [parse_many1, parse_many_of_success consumes read]
  cases parser.many.parse next <;> rfl

/-- A repetition of a parser that consumes is the one sequence of its copies after which it fails.
It never fails itself, and it returns if the parser does. Shorter sequences read the first of its
values, and longer ones fail as the parser does after the last. So does the parser after the
repetition, which leaves nothing for a second one. With a first value `many1` is the same, and
without one it has a failure of its own. In its equation the loop reads a value and begins anew. -/
theorem many_unique_maximal_repetition (consumes : parser.Consumes) (cursor : Cursor) :
    (∀ values last, parser.many.parse cursor = .success values last ↔
      (sequence (List.replicate values.length parser)).parse cursor = .success values last ∧
        ∃ reason, parser.parse last = .failure reason) ∧
    (∀ reason, parser.many.parse cursor ≠ .failure reason) ∧
    (parser.Total → ∃ values last, parser.many.parse cursor = .success values last) ∧
    (∀ values last, parser.many.parse cursor = .success values last →
      ∃ reason, parser.parse last = .failure reason ∧
        (∀ count, count ≤ values.length → ∃ place,
          (sequence (List.replicate count parser)).parse cursor =
            .success (values.take count) place) ∧
        (∀ count, values.length < count →
          (sequence (List.replicate count parser)).parse cursor = .failure reason) ∧
        (parser.many.both parser).parse cursor = .failure reason ∧
        (parser.many.both parser.many).parse cursor = .success (values, []) last) ∧
    (∀ value next, parser.parse cursor = .success value next →
      parser.many1.parse cursor = parser.many.parse cursor) ∧
    (∀ reason, parser.parse cursor = .failure reason →
      parser.many1.parse cursor = .failure .emptyRepetition) ∧
    parser.many.parse cursor =
      ((lift2 (fun value values => value :: values) parser parser.many).orElse
        (succeed [])).parse cursor := by
  refine ⟨fun values last => parse_many_eq_success_iff consumes, neverFails_many parser cursor,
    fun total => total.exists_parse_many consumes cursor, ?_,
    fun value next => parse_many1_of_success consumes, fun reason => parse_many1_of_failure, ?_⟩
  · intro values last read
    obtain ⟨copies, reason, failed⟩ := (parse_many_eq_success_iff consumes).mp read
    exact ⟨reason, failed, fun count => exists_parse_sequence_replicate_of_le copies,
      fun count => parse_sequence_replicate_of_lt copies failed,
      parse_many_both_of_stopped read failed, parse_many_both_many_of_stopped read failed⟩
  · rw [← many_eq_orElse consumes]

/-- Pairs of letters, the third of which breaks off after its first letter. -/
theorem many_reads_the_pairs_that_are_complete :
    (sequence [text "ab", text "ab"]).parse (Cursor.ofText "ababac") =
      .success ["ab", "ab"] (.inside ['b', 'a', 'b', 'a'] ['a', 'c']) ∧
    (text "ab").many.parse (Cursor.ofText "ababac") =
      .success ["ab", "ab"] (.inside ['b', 'a', 'b', 'a'] ['a', 'c']) ∧
    ((text "ab").many.both (text "ab")).parse (Cursor.ofText "ababac") =
      .failure (.charMismatch 'b' (some 'c')) ∧
    (text "ab").many1.parse (Cursor.ofText "ac") = .failure .emptyRepetition := by
  have consumes : (text "ab").Consumes := (progressive_text (by decide)).consumes
  have copies : (sequence [text "ab", text "ab"]).parse (Cursor.ofText "ababac") =
      .success ["ab", "ab"] (.inside ['b', 'a', 'b', 'a'] ['a', 'c']) := rfl
  obtain ⟨repeats, _, _, after, _⟩ :=
    many_unique_maximal_repetition consumes (Cursor.ofText "ababac")
  obtain ⟨_, _, _, _, _, empty, _⟩ := many_unique_maximal_repetition consumes (Cursor.ofText "ac")
  have read := (repeats ["ab", "ab"] _).mpr ⟨copies, .charMismatch 'b' (some 'c'), rfl⟩
  obtain ⟨reason, failed, _, _, followed, _⟩ := after _ _ read
  cases failed
  exact ⟨copies, read, followed, empty (.charMismatch 'b' (some 'c')) rfl⟩

end Parser

end TextGrammar
