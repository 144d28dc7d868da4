import TextGrammar.Proofs.Table.Lenient
import TextGrammar.Proofs.Table.Strict

/-!
Contract: what a number out of range does to the readers of tables.

Owns:
- `rowsBefore`, the rows that stand before such a number;
- that the strict reader fails with the failure of the number, wherever the number stands;
- that the lenient reader answers the table before the number and leaves the number unread.

The number fails where a field could begin. A committed list has promised a field there, or a row,
and passes the failure on through both lists. A lenient list takes any failure for its end.
-/

namespace TextGrammar.Table

/-- The complete rows, and the row cut short after `fields`, if it has any. -/
def rowsBefore (rows : List (List UInt64)) (fields : List UInt64) : List (List UInt64) :=
  if fields.isEmpty then rows else rows ++ [fields]

section Overflow

variable {names : List String} {rows : List (List UInt64)} {fields : List UInt64}
  {header lines line literal rest : List Char} {cursor : Cursor}

/-! ### The strict reader -/

private theorem parse_strictRow_of_overflowing (lineEnded : Ended Numeral ',' fields line)
    (overflowing : Overflowing literal) (stopped : ¬ StartsWith Char.isDigit rest)
    (unreadEq : cursor.unread = line ++ (literal ++ rest)) :
    (Parser.separatedList Parser.natural (Parser.char ',')).parse cursor =
      .failure (.failed ("number out of range: " ++ String.ofList literal)) := by
  have numerals :
      Parser.natural.Reads (.upTo Numeral fun rest => ¬ StartsWith Char.isDigit rest) :=
    Parser.reads_natural
  exact Parser.parse_separatedList_of_ended numerals (fun _ _ numeral => numeral.nonempty)
    (not_startsWith_cons (show Char.isDigit ',' = false from rfl)) lineEnded
    (fun place placeUnread => Parser.parse_natural_of_overflowing overflowing stopped placeUnread)
    unreadEq

/-- The failure of the number is the failure of its row, of the rows and of the table. -/
theorem strict_failure_of_overflowing (headerJoined : Joined Word ',' names header)
    (linesEnded : Ended (Joined Numeral ',') '\n' rows lines)
    (lineEnded : Ended Numeral ',' fields line) (overflowing : Overflowing literal)
    (stopped : ¬ StartsWith Char.isDigit rest)
    (unreadEq : cursor.unread = header ++ '\n' :: (lines ++ (line ++ (literal ++ rest)))) :
    strict.parse cursor =
      .failure (.failed ("number out of range: " ++ String.ofList literal)) := by
  have headerMember : Language.joined Word (fun rest => ¬ StartsWith Char.isAlpha rest) ',' names
      header ('\n' :: (lines ++ (line ++ (literal ++ rest)))) :=
    ⟨headerJoined, not_startsWith_cons rfl _, not_startsWith_cons rfl _⟩
  obtain ⟨place, placeUnread, parseEq⟩ :=
    exists_parse_parserWith_eq Parser.separatedList reads_strictHeader unreadEq headerMember
  have rowsFailed := Parser.parse_separatedList_of_ended reads_strictRow text_ne_nil_of_row
    row_stops_before_line linesEnded
    (fun _ rowUnread => parse_strictRow_of_overflowing lineEnded overflowing stopped rowUnread)
    placeUnread
  rw [strict, parseEq, rowsFailed, Outcome.map_failure]

/-! ### The lenient reader -/

private theorem refuses_of_overflowing (overflowing : Overflowing literal)
    (stopped : ¬ StartsWith Char.isDigit rest) :
    Language.numeral.Refuses (literal ++ rest) := by
  have failed := Parser.parse_natural_of_overflowing overflowing stopped
    (Cursor.unread_ofChars (literal ++ rest))
  have refused := (Parser.reads_natural _).refuses_of_failure failed
  rwa [Cursor.unread_ofChars] at refused

private theorem not_startsWith_of_overflowing (overflowing : Overflowing literal) {mark : Char}
    (noDigit : mark.isDigit = false) :
    ¬ StartsWith (· == mark) (literal ++ rest) := by
  have begins := overflowing.startsWith
  cases literal with
  | nil => exact absurd begins (not_startsWith_nil _)
  | cons head tail =>
      rw [startsWith_cons] at begins
      rw [List.cons_append, startsWith_cons, beq_iff_eq]
      rintro rfl
      rw [begins] at noDigit
      contradiction

/-- The rows end before the number, the last of them where a field could follow its comma. -/
private theorem repeated_rowsBefore (linesEnded : Ended (Joined Numeral ',') '\n' rows lines)
    (lineEnded : Ended Numeral ',' fields line) (overflowing : Overflowing literal)
    (stopped : ¬ StartsWith Char.isDigit rest) :
    (rowLanguage.element '\n').Repeated (rowsBefore rows fields) (lines ++ line)
      (literal ++ rest) := by
  have refused := refuses_of_overflowing overflowing stopped
  have rowsRefused := (refused.separated ',').element '\n'
  have opensRow : ∀ row text tail, Joined Numeral ',' row text →
      rowLanguage row text ('\n' :: tail) :=
    fun _ _ _ row => rowLanguage_of_looselyJoined (.inl row) (not_startsWith_cons rfl _)
      (not_startsWith_cons rfl _)
  have opensField : ∀ value text tail, Numeral value text →
      Language.numeral value text (',' :: tail) :=
    fun _ _ _ numeral => ⟨numeral, not_startsWith_cons rfl _⟩
  cases lineEnded with
  | nil =>
      have complete := Language.Repeated.of_ended linesEnded opensRow (.stop rowsRefused)
      rw [List.append_nil] at complete
      exact complete
  | @cons value values head tail first others =>
      have fieldsMember := Language.Repeated.of_ended (.cons first others) opensField
        (.stop (refused.element ','))
      rw [List.append_nil, List.append_nil] at fieldsMember
      have rowMember : rowLanguage.element '\n' (value :: values) (head ++ ',' :: tail)
          ([] ++ (literal ++ rest)) :=
        .inl ⟨⟨List.cons_ne_nil _ _, fieldsMember⟩, not_startsWith_of_overflowing overflowing rfl⟩
      have partialRow := Language.Repeated.step rowMember (.stop rowsRefused)
      rw [List.append_nil] at partialRow
      exact Language.Repeated.of_ended linesEnded opensRow partialRow

/-- Where a number out of range is the first field of all, no list has a match. -/
theorem lenient_failure_of_overflowing (headerJoined : Joined Word ',' names header)
    (overflowing : Overflowing literal) (stopped : ¬ StartsWith Char.isDigit rest)
    (unreadEq : cursor.unread = header ++ '\n' :: (literal ++ rest)) :
    lenient.parse cursor = .failure .emptyRepetition := by
  obtain ⟨place, placeUnread, parseEq⟩ :=
    exists_parse_parserWith_eq Parser.separatedBy
      (Parser.reads_letters.separatedBy Language.proper_word ',') unreadEq
      (headerLanguage_of_looselyJoined (.inl headerJoined))
  have fieldFailed := Parser.parse_natural_of_overflowing overflowing stopped placeUnread
  have rowFailed : (Parser.separatedBy Parser.natural (Parser.char ',')).parse place =
      .failure .emptyRepetition :=
    Parser.parse_separatedBy_of_failure fieldFailed
  rw [lenient, parseEq, Parser.parse_separatedBy_of_failure rowFailed, Outcome.map_failure]

theorem lenient_success_of_overflowing (headerJoined : Joined Word ',' names header)
    (linesEnded : Ended (Joined Numeral ',') '\n' rows lines)
    (lineEnded : Ended Numeral ',' fields line) (overflowing : Overflowing literal)
    (stopped : ¬ StartsWith Char.isDigit rest)
    (unreadEq : cursor.unread = header ++ '\n' :: (lines ++ (line ++ (literal ++ rest))))
    (filled : rowsBefore rows fields ≠ []) :
    ∃ next, lenient.parse cursor = .success ⟨names, rowsBefore rows fields⟩ next ∧
      next.unread = literal ++ rest := by
  have textEq : cursor.unread = (header ++ '\n' :: (lines ++ line)) ++ (literal ++ rest) := by
    rw [unreadEq]
    simp
  exact (reads_lenient.success_leaving_iff cursor _ _).mpr
    ⟨_, textEq, header, lines ++ line, rfl, headerLanguage_of_looselyJoined (.inl headerJoined),
      filled, repeated_rowsBefore linesEnded lineEnded overflowing stopped⟩

end Overflow

/-- At a number out of range, after any number of complete rows and any number of fields, the strict
reader fails and shows the number. The lenient one answers what stands before the number, and fails
only if that is no row at all. -/
theorem strict_fails_and_lenient_truncates_at_overflow {names : List String}
    {rows : List (List UInt64)} {fields : List UInt64}
    {header lines line literal rest : List Char} {cursor : Cursor}
    (headerJoined : Joined Word ',' names header)
    (linesEnded : Ended (Joined Numeral ',') '\n' rows lines)
    (lineEnded : Ended Numeral ',' fields line) (overflowing : Overflowing literal)
    (stopped : ¬ StartsWith Char.isDigit rest)
    (unreadEq : cursor.unread = header ++ '\n' :: (lines ++ (line ++ (literal ++ rest)))) :
    strict.parse cursor =
      .failure ⟨.rejected, "number out of range: " ++ String.ofList literal, .fail⟩ ∧
    (rows = [] ∧ fields = [] → lenient.parse cursor = .failure .emptyRepetition) ∧
    (¬ (rows = [] ∧ fields = []) →
      ∃ next, lenient.parse cursor = .success ⟨names, rowsBefore rows fields⟩ next ∧
        next.unread = literal ++ rest) := by
  refine ⟨strict_failure_of_overflowing headerJoined linesEnded lineEnded overflowing stopped
    unreadEq, ?_, fun filled => ?_⟩
  · rintro ⟨rfl, rfl⟩
    cases linesEnded
    cases lineEnded
    exact lenient_failure_of_overflowing headerJoined overflowing stopped unreadEq
  · refine lenient_success_of_overflowing headerJoined linesEnded lineEnded overflowing stopped
      unreadEq ?_
    cases fields with
    | nil => simpa [rowsBefore] using filled
    | cons => simp [rowsBefore]

/-- The least number out of range, as the second field of a second row and as the first of all. -/
theorem strict_and_lenient_at_the_least_overflow :
    strict.parse (Cursor.ofText "a\n1\n2,18446744073709551616;") =
      .failure ⟨.rejected, "number out of range: 18446744073709551616", .fail⟩ ∧
    (∃ next, lenient.parse (Cursor.ofText "a\n1\n2,18446744073709551616;") =
        .success ⟨["a"], [[1], [2]]⟩ next ∧
      next.unread = "18446744073709551616;".toList) ∧
    lenient.parse (Cursor.ofText "a\n18446744073709551616") = .failure .emptyRepetition := by
  have name : Joined Word ',' ["a"] ['a'] :=
    .single ⟨by decide, List.forall_mem_singleton.mpr rfl, rfl⟩
  have one : Numeral 1 ['1'] := ⟨by decide, List.forall_mem_singleton.mpr rfl, rfl⟩
  have two : Numeral 2 ['2'] := ⟨by decide, List.forall_mem_singleton.mpr rfl, rfl⟩
  have line : Ended (Joined Numeral ',') '\n' [[1]] ['1', '\n'] :=
    .cons (Joined.single one) .nil
  have field : Ended Numeral ',' [2] ['2', ','] := .cons two .nil
  have overflowing : Overflowing "18446744073709551616".toList := ⟨by simp, by decide +kernel⟩
  have stopped : ¬ StartsWith Char.isDigit [';'] := by decide
  have secondRow : (Cursor.ofText "a\n1\n2,18446744073709551616;").unread =
      ['a'] ++ '\n' :: (['1', '\n'] ++ (['2', ','] ++
        ("18446744073709551616".toList ++ [';']))) := by rfl
  have firstField : (Cursor.ofText "a\n18446744073709551616").unread =
      ['a'] ++ '\n' :: ([] ++ ([] ++ ("18446744073709551616".toList ++ []))) := by rfl
  obtain ⟨failed, _, truncated⟩ := strict_fails_and_lenient_truncates_at_overflow
    name line field overflowing stopped secondRow
  obtain ⟨_, empty, _⟩ := strict_fails_and_lenient_truncates_at_overflow
    name .nil .nil overflowing (not_startsWith_nil _) firstField
  exact ⟨failed, truncated (by simp), empty ⟨rfl, rfl⟩⟩

end TextGrammar.Table
