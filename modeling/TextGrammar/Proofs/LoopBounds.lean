import TextGrammar.Parser.Sequence
import TextGrammar.Proofs.CommittedList

/-!
Contract: which parsers the loops can repeat, and what a loop over them costs.

Owns:
- `Regular` parsers, which return some steps ahead, and `Progressive` ones, which take a step at
  least, and that the combinators and lexemes are among them;
- `Bounded` lists, which return with no more values than characters, some extra ones apart;
- the bounds of `many`, `many1`, `separatedBy` and `separatedList`.

What shrinks is the unread text. A repetition and a lenient list need elements that shrink it. For a
committed list it is enough that each separator with its element does, so either of them may read
nothing; the first element has no separator before it, and is the one value to spare.
-/

namespace TextGrammar

namespace Parser

variable {α β : Type}

/-- Every run returns, some steps ahead if it succeeds. -/
structure Regular (parser : Parser α) : Prop where
  total : parser.Total
  advances : parser.Advances

/-- Every run returns, a step ahead or more if it succeeds. -/
structure Progressive (parser : Parser α) : Prop extends parser.Regular where
  consumes : parser.Consumes

/-- Every run returns, and a success has no more values than it took characters, and `extra`. -/
structure Bounded (parser : Parser (List α)) (extra : Nat) : Prop where
  total : parser.Total
  length_le : ∀ cursor values last, parser.parse cursor = .success values last →
    values.length + last.unread.length ≤ cursor.unread.length + extra

/-! ### Regular parsers -/

section Regular

variable {parser alternative : Parser α} {other : Parser β} {language : Language α}

theorem Reads.regular (reads : parser.Reads language) : parser.Regular where
  total cursor := (reads cursor).returns
  advances := reads.advances

theorem Regular.map (regular : parser.Regular) (f : α → β) : (parser.map f).Regular where
  total := regular.total.map f
  advances := regular.advances.map f

theorem Regular.bind {next : α → Parser β} (regular : parser.Regular)
    (nextRegular : ∀ value, (next value).Regular) : (parser.bind next).Regular where
  total := regular.total.bind fun value => (nextRegular value).total
  advances := regular.advances.bind fun value => (nextRegular value).advances

theorem Regular.orElse (regular : parser.Regular) (alternativeRegular : alternative.Regular) :
    (parser.orElse alternative).Regular where
  total := regular.total.orElse alternativeRegular.total
  advances := regular.advances.orElse alternativeRegular.advances

theorem Regular.sequence {items : List (Parser α)} (regular : ∀ item ∈ items, item.Regular) :
    (sequence items).Regular := by
  induction items with
  | nil => exact (reads_succeed []).regular
  | cons head tail inductionHypothesis =>
      have tailRegular := inductionHypothesis fun item member =>
        regular item (List.mem_cons_of_mem head member)
      exact (regular head List.mem_cons_self).bind fun value => tailRegular.map (value :: ·)

theorem regular_blanks : blanks.Regular :=
  reads_blanks.regular

theorem Regular.padded (regular : parser.Regular) : (padded parser).Regular where
  total := regular_blanks.total.second (regular.total.first regular_blanks.total)
  advances := regular.advances.padded

end Regular

/-! ### Progressive parsers -/

section Progressive

variable {parser alternative : Parser α} {separator : Parser β} {language : Language α}

theorem Reads.progressive (reads : parser.Reads language) (proper : language.Proper) :
    parser.Progressive where
  toRegular := reads.regular
  consumes := reads.consumes proper

theorem Progressive.bind {next : α → Parser β} (progressive : parser.Progressive)
    (nextRegular : ∀ value, (next value).Regular) : (parser.bind next).Progressive where
  toRegular := progressive.toRegular.bind nextRegular
  consumes := by
    intro cursor value last read
    rw [parse_bind, Outcome.andThen_eq_success_iff] at read
    obtain ⟨first, between, readFirst, readNext⟩ := read
    have shorter := progressive.consumes cursor first between readFirst
    have notLonger := (nextRegular first).advances.unread_length_le readNext
    omega

theorem Progressive.map (progressive : parser.Progressive) (f : α → β) :
    (parser.map f).Progressive :=
  progressive.bind fun value => (reads_succeed (f value)).regular

theorem Progressive.orElse (progressive : parser.Progressive)
    (alternativeProgressive : alternative.Progressive) :
    (parser.orElse alternative).Progressive where
  toRegular := progressive.toRegular.orElse alternativeProgressive.toRegular
  consumes := by
    intro cursor value last read
    rw [parse_orElse, Outcome.orElse_eq_success_iff] at read
    rcases read with read | ⟨_, read⟩
    · exact progressive.consumes cursor value last read
    · exact alternativeProgressive.consumes cursor value last read

theorem Progressive.firstSuccess {others : List (Parser α)} (progressive : parser.Progressive)
    (othersProgressive : ∀ other ∈ others, other.Progressive) :
    (firstSuccess parser others).Progressive := by
  induction others generalizing parser with
  | nil => exact progressive
  | cons head tail inductionHypothesis =>
      exact progressive.orElse (inductionHypothesis (othersProgressive head List.mem_cons_self)
        fun other member => othersProgressive other (List.mem_cons_of_mem head member))

theorem Progressive.first (progressive : parser.Progressive) (droppedRegular : separator.Regular) :
    (first parser separator).Progressive := by
  rw [Parser.first, both_eq_bind]
  exact (progressive.bind fun value => droppedRegular.map (Prod.mk value)).map Prod.fst

theorem Progressive.second (progressive : parser.Progressive) (droppedRegular : separator.Regular) :
    (second separator parser).Progressive where
  total := droppedRegular.total.second progressive.total
  advances := droppedRegular.advances.second progressive.advances
  consumes := .second_of_advances droppedRegular.advances progressive.consumes

theorem Progressive.element (progressive : parser.Progressive)
    (separatorRegular : separator.Regular) : (element parser separator).Progressive where
  total := progressive.total.element separatorRegular.total
  advances := progressive.advances.element separatorRegular.advances
  consumes := progressive.consumes.element separatorRegular.advances

theorem progressive_char (expected : Char) : (char expected).Progressive :=
  (reads_char expected).progressive (Language.proper_character expected)

theorem progressive_anyOf (characters : Alternatives Char) : (anyOf characters).Progressive :=
  (reads_anyOf characters).progressive (Language.proper_oneOf _)

/-- A text that is not empty begins with a character, which is read. -/
theorem progressive_text {expected : String} (filled : expected ≠ "") :
    (text expected).Progressive := by
  rw [text]
  refine Progressive.map ?_ String.ofList
  cases charactersEq : expected.toList with
  | nil => exact absurd (String.toList_eq_nil_iff.mp charactersEq) filled
  | cons head tail =>
      have tailRegular : (sequence (tail.map char)).Regular := by
        refine Regular.sequence fun item member => ?_
        obtain ⟨character, _, rfl⟩ := List.mem_map.mp member
        exact (progressive_char character).toRegular
      exact (progressive_char head).bind fun value => tailRegular.map (value :: ·)

theorem progressive_anyChar : anyChar.Progressive :=
  reads_anyChar.progressive (Language.proper_oneOf _)

theorem progressive_digit : digit.Progressive :=
  reads_digit.progressive (Language.proper_oneOf _)

theorem progressive_letter : letter.Progressive :=
  reads_letter.progressive (Language.proper_oneOf _)

theorem progressive_blank : blank.Progressive :=
  (progressive_char ' ').orElse (progressive_char '\t')

theorem progressive_digits : digits.Progressive :=
  reads_digit.lexeme.progressive fun _ _ _ member => member.2.1

theorem progressive_letters : letters.Progressive :=
  reads_letters.progressive Language.proper_word

theorem progressive_natural : natural.Progressive :=
  reads_natural.progressive Language.proper_numeral

end Progressive

/-! ### Lists -/

section Lists

variable {parser : Parser α} {separator : Parser β} {list : Parser (List α)}

/-- A list that is never empty has taken a character for its first value. -/
theorem Bounded.consumes (bounded : list.Bounded 0)
    (filled : ∀ cursor values last, list.parse cursor = .success values last → values ≠ []) :
    list.Consumes := by
  intro cursor values last read
  have positive := List.length_pos_iff.mpr (filled cursor values last read)
  have notMore := bounded.length_le cursor values last read
  omega

/-- A repetition takes fewer runs than there are places ahead. -/
theorem Progressive.exists_runs (progressive : parser.Progressive) (cursor : Cursor) :
    ∃ runs values last, runs ≤ cursor.unread.length + 1 ∧
      parser.many.parse cursor = .success values last ∧
      ∀ bound, repeatWithin parser bound cursor =
        if runs ≤ bound then .success values last else .endless := by
  obtain ⟨values, last, read⟩ := progressive.total.exists_parse_many progressive.consumes cursor
  have notMore := length_add_unread_le_of_repeatWithin progressive.consumes read
  exact ⟨values.length + 1, values, last, by omega, read, repeatWithin_eq_ite read⟩

theorem Progressive.bounded_many (progressive : parser.Progressive) : parser.many.Bounded 0 where
  total cursor := by
    obtain ⟨values, last, read⟩ := progressive.total.exists_parse_many progressive.consumes cursor
    rw [read]
    exact Outcome.returns_success values last
  length_le cursor values last read :=
    length_add_unread_le_of_repeatWithin progressive.consumes read

theorem Progressive.bounded_many1 (progressive : parser.Progressive) :
    parser.many1.Bounded 0 where
  total cursor := by
    have returns : (parser.many.parse cursor).Returns := progressive.bounded_many.total cursor
    rw [parse_many1]
    refine returns.andThen fun values last => ?_
    split
    · exact Outcome.returns_failure _
    · exact Outcome.returns_success values last
  length_le cursor values last read :=
    progressive.bounded_many.length_le cursor values last (parse_many1_eq_success_iff.mp read).2

theorem Progressive.many1 (progressive : parser.Progressive) : parser.many1.Progressive where
  total := progressive.bounded_many1.total
  advances := progressive.advances.many1
  consumes := progressive.bounded_many1.consumes fun _ _ _ read =>
    (parse_many1_eq_success_iff.mp read).1

section Committed

variable {extra : Nat} (total : parser.Total) (separatorTotal : separator.Total)
  (consumes : (second separator parser).Consumes)
  (firstLeaves : ∀ cursor value next, parser.parse cursor = .success value next →
    next.unread.length + 1 ≤ cursor.unread.length + extra)

include total separatorTotal consumes firstLeaves

/-- What the first element leaves of the text bounds the other ones. -/
theorem exists_parse_separatedList (cursor : Cursor) :
    (∃ reason, (separatedList parser separator).parse cursor = .failure reason) ∨
    ∃ values last, (separatedList parser separator).parse cursor = .success values last ∧
      values.length + last.unread.length ≤ cursor.unread.length + extra := by
  cases read : parser.parse cursor with
  | endless => exact absurd read (total cursor)
  | failure reason => exact .inl ⟨reason, parse_separatedList_of_failure read⟩
  | success value next =>
      have leaves := firstLeaves cursor value next read
      have roundTotal : (second separator parser).Total := separatorTotal.second total
      obtain ⟨values, last, repeated⟩ := roundTotal.exists_parse_many consumes next
      have notMore := length_add_unread_le_of_repeatWithin consumes repeated
      cases separated : separator.parse last with
      | endless => exact absurd separated (separatorTotal last)
      | success mark after =>
          obtain ⟨reason, _, failed⟩ :=
            exists_parse_separatedList_of_separated read repeated separated
          exact .inl ⟨reason, failed⟩
      | failure reason =>
          have stopped := parse_separatedList_of_stopped read repeated separated
          refine .inr ⟨value :: values, last, stopped, ?_⟩
          rw [List.length_cons]
          omega

theorem bounded_separatedList : (separatedList parser separator).Bounded extra where
  total cursor := by
    rcases exists_parse_separatedList total separatorTotal consumes firstLeaves cursor with
      ⟨reason, failed⟩ | ⟨values, last, read, _⟩
    · simp [failed]
    · simp [read]
  length_le cursor values last read := by
    rcases exists_parse_separatedList total separatorTotal consumes firstLeaves cursor with
      ⟨reason, failed⟩ | ⟨found, place, readFound, notMore⟩
    · simp [failed] at read
    · rw [read] at readFound
      cases readFound
      exact notMore

end Committed

theorem Progressive.bounded_separatedList (progressive : parser.Progressive)
    (separatorRegular : separator.Regular) : (separatedList parser separator).Bounded 0 :=
  Parser.bounded_separatedList progressive.total separatorRegular.total
    (.second_of_advances separatorRegular.advances progressive.consumes)
    fun cursor value next read => progressive.consumes cursor value next read

/-- Elements that may read nothing, between separators that do not. -/
theorem Progressive.bounded_separatedList_of_separator
    (separatorProgressive : separator.Progressive) (regular : parser.Regular) :
    (separatedList parser separator).Bounded 1 := by
  refine Parser.bounded_separatedList regular.total separatorProgressive.total ?_ ?_
  · exact separatorProgressive.consumes.second regular.advances
  · intro cursor value next read
    have notLonger := regular.advances.unread_length_le read
    omega

theorem Progressive.separatedList (progressive : parser.Progressive)
    (separatorRegular : separator.Regular) : (separatedList parser separator).Progressive where
  total := (progressive.bounded_separatedList separatorRegular).total
  advances := progressive.advances.separatedList separatorRegular.advances
  consumes := (progressive.bounded_separatedList separatorRegular).consumes
    fun cursor values last read => by
      have ending := listEnding_separatedList progressive.consumes separatorRegular.advances cursor
      rw [read] at ending
      cases ending with
      | complete run stopped => exact run.ne_nil

end Lists

/-! ### The loops -/

/-- A parser that consumes is run once more, at most, than there are characters left, and every list
of its values is as short as the text it was read from, whatever regular separator stands between
them. A committed list needs no more than a separator that consumes, and then one value is to spare.
The parsers of characters and texts consume, and so do lists that are never empty. So the loops in
the lexemes are bounded, and skipping blanks around a parser returns where the parser does. -/
theorem loops_bounded_by_unread {parser : Parser α} {separator : Parser β}
    (regular : parser.Regular) (separatorRegular : separator.Regular) :
    (parser.Consumes →
      (∀ cursor, ∃ runs values last, runs ≤ cursor.unread.length + 1 ∧
        parser.many.parse cursor = .success values last ∧
        parser.many1.parse cursor =
          (if values.isEmpty then .failure .emptyRepetition else .success values last) ∧
        ∀ bound, repeatWithin parser bound cursor =
          if runs ≤ bound then .success values last else .endless) ∧
      parser.many.Bounded 0 ∧ parser.many1.Bounded 0 ∧
      (separatedBy parser separator).Bounded 0 ∧ (separatedList parser separator).Bounded 0 ∧
      parser.many1.Progressive ∧ (separatedBy parser separator).Progressive ∧
      (separatedList parser separator).Progressive) ∧
    (separator.Consumes → (separatedList parser separator).Bounded 1) ∧
    ((∀ expected, (char expected).Progressive) ∧ anyChar.Progressive ∧
      (∀ characters, (anyOf characters).Progressive) ∧
      (∀ expected, expected ≠ "" → (text expected).Progressive) ∧
      digit.Progressive ∧ digits.Progressive ∧ letter.Progressive ∧ letters.Progressive ∧
      natural.Progressive) ∧
    digit.many1.Bounded 0 ∧ letter.many1.Bounded 0 ∧ blank.many.Bounded 0 ∧
    blanks.Regular ∧ (padded parser).Regular := by
  refine ⟨fun consumes => ?_, fun consumes => ?_, ?_, ?_⟩
  · have progressive : parser.Progressive := ⟨regular, consumes⟩
    have elementProgressive := progressive.element separatorRegular
    refine ⟨fun cursor => ?_, progressive.bounded_many, progressive.bounded_many1,
      elementProgressive.bounded_many1, progressive.bounded_separatedList separatorRegular,
      progressive.many1, elementProgressive.many1, progressive.separatedList separatorRegular⟩
    obtain ⟨runs, values, last, fewRuns, read, enough⟩ := progressive.exists_runs cursor
    refine ⟨runs, values, last, fewRuns, read, ?_, enough⟩
    rw [parse_many1, read, Outcome.success_andThen]
  · have separatorProgressive : separator.Progressive := ⟨separatorRegular, consumes⟩
    exact separatorProgressive.bounded_separatedList_of_separator regular
  · exact ⟨progressive_char, progressive_anyChar, progressive_anyOf, fun _ => progressive_text,
      progressive_digit, progressive_digits, progressive_letter, progressive_letters,
      progressive_natural⟩
  · exact ⟨progressive_digit.bounded_many1, progressive_letter.bounded_many1,
      progressive_blank.bounded_many, regular_blanks, regular.padded⟩

/-- Letters with blanks between them, which may be missing, and letters that may be missing between
commas. Two commas have three places for a letter, which is one more than there are characters. -/
theorem loops_over_letters_bounded_by_unread :
    (separatedList (char 'a') blanks).Bounded 0 ∧
    (∃ runs values last, runs ≤ 4 ∧
      (char 'a').many.parse (Cursor.ofText "aab") = .success values last) ∧
    (text "ab").many1.Bounded 0 ∧
    (separatedList (char 'a').optional (char ',')).Bounded 1 ∧
    (separatedList (char 'a').optional (char ',')).parse (Cursor.ofText ",,") =
      .success [none, none, none] (.atEnd [',', ',']) := by
  have letterRegular := (progressive_char 'a').toRegular
  have optionalRegular : (char 'a').optional.Regular :=
    (letterRegular.map some).orElse (reads_succeed none).regular
  obtain ⟨spaced, _⟩ := loops_bounded_by_unread letterRegular regular_blanks
  obtain ⟨loops, _, _, _, list, _⟩ := spaced (progressive_char 'a').consumes
  obtain ⟨runs, values, last, fewRuns, read, _⟩ := loops (Cursor.ofText "aab")
  obtain ⟨_, commas, ⟨_, _, _, texts, _⟩, _⟩ :=
    loops_bounded_by_unread optionalRegular (progressive_char ',').toRegular
  refine ⟨list, ⟨runs, values, last, fewRuns, read⟩, ?_, ?_, rfl⟩
  · exact (texts "ab" (by decide)).bounded_many1
  · exact commas (progressive_char ',').consumes

end Parser

end TextGrammar
