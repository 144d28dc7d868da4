import TextGrammar.Proofs.Table.Lenient
import TextGrammar.Proofs.Table.Strict

/-!
Contract: the strict and the lenient reader of tables answer the same but where a separator is
left over.

Owns:
- `DanglingSeparator`, the texts with a separator left over;
- that the strict texts are the lenient ones without such a separator;
- that the strict reader succeeds with the lenient one if the text read has none, and fails if it
  has one.
-/

namespace TextGrammar.Table

/-- A comma at the end of a line or of the text, or a line feed at the end of the text. -/
def DanglingSeparator (text : List Char) : Prop :=
  [',', '\n'] <:+: text ∨ [','] <:+ text ∨ ['\n'] <:+ text

instance (text : List Char) : Decidable (DanglingSeparator text) :=
  inferInstanceAs (Decidable (_ ∨ _ ∨ _))

/-! ### The texts -/

theorem StrictText.lenientText {table : Table} {text : List Char}
    (strictText : StrictText table text) : LenientText table text := by
  obtain ⟨header, rows, textEq, headerJoined, rowsJoined⟩ := strictText
  exact ⟨header, rows, textEq, .inl headerJoined, .inl (rowsJoined.imp fun _ _ row => .inl row)⟩

private theorem not_mem_numeral {mark : Char} (noDigit : mark.isDigit = false) :
    ∀ value text, Numeral value text → mark ∉ text := by
  intro value text numeral member
  rw [numeral.digits mark member] at noDigit
  contradiction

private theorem not_mem_word {mark : Char} (noLetter : mark.isAlpha = false) :
    ∀ name text, Word name text → mark ∉ text := by
  intro name text word member
  rw [word.letters mark member] at noLetter
  contradiction

private theorem not_suffix_of_not_mem {mark : Char} {text : List Char} (absent : mark ∉ text) :
    ¬ [mark] <:+ text :=
  fun ends => absent (ends.mem List.mem_cons_self)

private theorem not_pair_infix_of_not_mem {first second : Char} {text : List Char}
    (absent : second ∉ text) : ¬ [first, second] <:+: text :=
  fun found => absent (found.mem (List.mem_cons_of_mem first List.mem_cons_self))

theorem StrictText.not_danglingSeparator {table : Table} {text : List Char}
    (strictText : StrictText table text) : ¬ DanglingSeparator text := by
  obtain ⟨header, rows, rfl, headerJoined, rowsJoined⟩ := strictText
  have rowProper : ∀ row text, Joined Numeral ',' row text → text ≠ [] :=
    fun _ _ row => row.text_ne_nil fun _ _ numeral => numeral.nonempty
  have rowNoComma : ∀ row text, Joined Numeral ',' row text → ¬ [','] <:+ text :=
    fun _ _ row => row.not_suffix (fun _ _ numeral => numeral.nonempty)
      fun value text numeral => not_suffix_of_not_mem (not_mem_numeral rfl value text numeral)
  have rowNoLine : ∀ row text, Joined Numeral ',' row text → '\n' ∉ text :=
    fun _ _ row => row.not_mem (by decide) (not_mem_numeral rfl)
  have headerNoComma : ¬ [','] <:+ header :=
    headerJoined.not_suffix (fun _ _ word => word.nonempty)
      fun name text word => not_suffix_of_not_mem (not_mem_word rfl name text word)
  have headerNoLine : '\n' ∉ header := headerJoined.not_mem (by decide) (not_mem_word rfl)
  have rowsFilled : rows ≠ [] := rowsJoined.text_ne_nil rowProper
  intro dangling
  rw [DanglingSeparator, List.append_cons, singleton_suffix_append_iff _ rowsFilled,
    singleton_suffix_append_iff _ rowsFilled, ← List.append_cons] at dangling
  rcases dangling with pair | comma | line
  · rcases pair_infix_of_cut (by decide) pair with inHeader | atEnd | inRows
    · exact not_pair_infix_of_not_mem headerNoLine inHeader
    · exact headerNoComma atEnd
    · exact rowsJoined.not_pair_infix (by decide)
        (fun row text joined => not_pair_infix_of_not_mem (rowNoLine row text joined))
        rowNoComma inRows
  · exact rowsJoined.not_suffix rowProper rowNoComma comma
  · exact rowsJoined.not_suffix rowProper
      (fun row text joined => not_suffix_of_not_mem (rowNoLine row text joined)) line

theorem LenientText.strictText {table : Table} {text : List Char}
    (lenientText : LenientText table text) (clean : ¬ DanglingSeparator text) :
    StrictText table text := by
  obtain ⟨header, rows, rfl, headerLoose, rowsLoose⟩ := lenientText
  have rowsSuffix := suffix_of_cut header '\n' rows
  have headerBare : ¬ [','] <:+ header :=
    fun ends => clean (.inl (pair_infix_of_suffix ends '\n' rows))
  have linesJoined := rowsLoose.joined_of_not_suffix
    fun ends => clean (.inr (.inr (ends.trans rowsSuffix)))
  have rowsJoined := linesJoined.joined_of_looselyJoined
    (fun found => clean (.inl (found.trans rowsSuffix.isInfix)))
    (fun ends => clean (.inr (.inl (ends.trans rowsSuffix))))
  exact ⟨header, rows, rfl, headerLoose.joined_of_not_suffix headerBare, rowsJoined⟩

/-! ### The readers -/

/-- Where a table has no separator left over, the lenient reader has stopped only because nothing
continues the table. -/
theorem not_startsWith_continuesTable_of_clean {table : Table} {text rest : List Char}
    (member : lenientLanguage table text rest) (clean : ¬ DanglingSeparator text) :
    ¬ StartsWith continuesTable rest := by
  obtain ⟨header, rows, rfl, _, rowsMember⟩ := member
  have rowsSuffix := suffix_of_cut header '\n' rows
  obtain ⟨noLine, row, rowText, rowSuffix, rowMember⟩ :=
    Language.exists_last_of_separated rowsMember
      fun ends => clean (.inr (.inr (ends.trans rowsSuffix)))
  obtain ⟨noComma, value, numeralText, _, numeralMember⟩ :=
    Language.exists_last_of_separated rowMember
      fun ends => clean (.inr (.inl ((ends.trans rowSuffix).trans rowsSuffix)))
  rw [not_startsWith_continuesTable_iff]
  exact ⟨⟨numeralMember.2, noComma⟩, noLine⟩

theorem lenient_success_of_strict {cursor next : Cursor} {table : Table}
    (read : strict.parse cursor = .success table next) :
    lenient.parse cursor = .success table next := by
  obtain ⟨text, unreadEq, ⟨strictText, stopped⟩, rfl⟩ := reads_strict.of_success read
  exact (reads_lenient cursor).success unreadEq
    (lenientLanguage_of_lenientText strictText.lenientText stopped)

theorem strict_success_of_lenient {cursor next : Cursor} {table : Table} {text : List Char}
    (read : lenient.parse cursor = .success table next)
    (unreadEq : cursor.unread = text ++ next.unread) (clean : ¬ DanglingSeparator text) :
    strict.parse cursor = .success table next := by
  obtain ⟨consumed, consumedEq, member, nextEq⟩ := reads_lenient.of_success read
  have textEq : text = consumed := List.append_cancel_right (unreadEq.symm.trans consumedEq)
  rw [textEq] at clean
  have strictText := (lenientText_of_lenientLanguage member).strictText clean
  have stopped := not_startsWith_continuesTable_of_clean member clean
  rw [nextEq]
  exact (reads_strict cursor).success consumedEq ⟨strictText, stopped⟩

/-- A strict success would be the lenient one, and have read a text with a separator left over. -/
theorem strict_failure_of_danglingSeparator {cursor next : Cursor} {table : Table}
    {text : List Char} (read : lenient.parse cursor = .success table next)
    (unreadEq : cursor.unread = text ++ next.unread) (dangling : DanglingSeparator text) :
    ∃ reason, strict.parse cursor = .failure reason := by
  refine (reads_strict cursor).returns.exists_failure fun found place strictRead => ?_
  have same := lenient_success_of_strict strictRead
  rw [read] at same
  cases same
  obtain ⟨consumed, consumedEq, ⟨strictText, _⟩, _⟩ := reads_strict.of_success strictRead
  have textEq : text = consumed := List.append_cancel_right (unreadEq.symm.trans consumedEq)
  rw [textEq] at dangling
  exact strictText.not_danglingSeparator dangling

theorem strict_failure_of_lenient_failure {cursor : Cursor} {reason : Failure}
    (failed : lenient.parse cursor = .failure reason) :
    ∃ reason, strict.parse cursor = .failure reason := by
  refine (reads_strict cursor).returns.exists_failure fun found place strictRead => ?_
  rw [lenient_success_of_strict strictRead] at failed
  contradiction

/-- The strict reader fails where the lenient one fails, and where the text that the lenient one has
read has a separator left over. Else it answers the same table at the same place, and it never
succeeds otherwise. -/
theorem strict_agrees_with_lenient_up_to_danglingSeparator (cursor : Cursor) :
    (∀ reason, lenient.parse cursor = .failure reason →
      ∃ strictReason, strict.parse cursor = .failure strictReason) ∧
    (∀ table next, lenient.parse cursor = .success table next →
      ∃ text, cursor.unread = text ++ next.unread ∧
        (¬ DanglingSeparator text → strict.parse cursor = .success table next) ∧
        (DanglingSeparator text → ∃ reason, strict.parse cursor = .failure reason)) ∧
    ∀ table next, strict.parse cursor = .success table next →
      lenient.parse cursor = .success table next := by
  refine ⟨fun _ failed => strict_failure_of_lenient_failure failed, ?_,
    fun _ _ read => lenient_success_of_strict read⟩
  intro table next read
  obtain ⟨text, unreadEq, _, _⟩ := reads_lenient.of_success read
  exact ⟨text, unreadEq, strict_success_of_lenient read unreadEq,
    strict_failure_of_danglingSeparator read unreadEq⟩

/-- The readers on a comma before a line feed, on the same text without it, and on no text. -/
theorem strict_and_lenient_around_a_comma :
    (∃ reason, strict.parse (Cursor.ofText "a\n1,\n2") = .failure reason) ∧
    (∃ next, strict.parse (Cursor.ofText "a\n1\n2") = .success ⟨["a"], [[1], [2]]⟩ next) ∧
    ∃ reason, strict.parse (Cursor.ofText "") = .failure reason := by
  refine ⟨?_, ?_, ?_⟩
  · have read : lenient.parse (Cursor.ofText "a\n1,\n2") =
        .success ⟨["a"], [[1], [2]]⟩ ((Cursor.ofText "a\n1,\n2").advance 6) := by rfl
    obtain ⟨text, unreadEq, _, dangling⟩ :=
      (strict_agrees_with_lenient_up_to_danglingSeparator _).2.1 _ _ read
    have textEq : "a\n1,\n2".toList = text := unreadEq.trans (List.append_nil text)
    exact dangling (textEq ▸ by decide)
  · have read : lenient.parse (Cursor.ofText "a\n1\n2") =
        .success ⟨["a"], [[1], [2]]⟩ ((Cursor.ofText "a\n1\n2").advance 5) := by rfl
    obtain ⟨text, unreadEq, clean, _⟩ :=
      (strict_agrees_with_lenient_up_to_danglingSeparator _).2.1 _ _ read
    have textEq : "a\n1\n2".toList = text := unreadEq.trans (List.append_nil text)
    exact ⟨_, clean (textEq ▸ by decide)⟩
  · obtain ⟨reason, failed⟩ : ∃ reason, lenient.parse (Cursor.ofText "") = .failure reason :=
      ⟨_, rfl⟩
    exact (strict_agrees_with_lenient_up_to_danglingSeparator _).1 reason failed

end TextGrammar.Table
