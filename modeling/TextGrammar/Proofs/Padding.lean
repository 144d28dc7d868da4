import TextGrammar.Proofs.Lexemes

/-!
Contract: blanks that are skipped, as a step from one cursor to another.

Owns:
- `Cursor.pastBlanks`, the place after the blanks at a cursor, and the text that is left there;
- the equations of `blanks` and `padded`;
- that a second padding skips nothing, neither around the first nor between two parsers in a row.

`blanks` never fails and cannot stop early, so it is a function of the cursor. What follows it can
be read off the place that the blanks lead to. No blank stands there, so the function leads no
further when it is applied again, and laws of padding are laws of this function.
-/

namespace TextGrammar

/-- The place after the blanks that stand at the cursor. -/
def Cursor.pastBlanks (cursor : Cursor) : Cursor :=
  cursor.advance (cursor.unread.takeWhile isBlank).length

section Blanks

variable {cursor : Cursor} {gap text : List Char}

@[simp] theorem Cursor.unread_pastBlanks (cursor : Cursor) :
    cursor.pastBlanks.unread = cursor.unread.dropWhile isBlank :=
  Cursor.unread_advance_length List.takeWhile_append_dropWhile.symm

theorem blanks_takeWhile (text : List Char) : Blanks (text.takeWhile isBlank) :=
  List.all_eq_true.mp List.all_takeWhile

theorem not_startsWith_dropWhile (accept : Char → Bool) (text : List Char) :
    ¬ StartsWith accept (text.dropWhile accept) := by
  have first := List.head?_dropWhile_not accept text
  cases remaining : text.dropWhile accept with
  | nil => exact not_startsWith_nil accept
  | cons head tail =>
      rw [remaining, List.head?_cons] at first
      exact not_startsWith_cons first tail

theorem takeWhile_eq_nil_iff (accept : Char → Bool) (text : List Char) :
    text.takeWhile accept = [] ↔ ¬ StartsWith accept text := by
  cases text with
  | nil => exact ⟨fun _ => not_startsWith_nil accept, fun _ => rfl⟩
  | cons head tail => simp [List.takeWhile_cons]

theorem dropWhile_of_not_startsWith {accept : Char → Bool} (stopped : ¬ StartsWith accept text) :
    text.dropWhile accept = text := by
  cases text with
  | nil => rfl
  | cons head tail =>
      rw [startsWith_cons] at stopped
      rw [List.dropWhile_cons, if_neg stopped]

theorem Blanks.dropWhile_append (blanks : Blanks gap) (text : List Char) :
    (gap ++ text).dropWhile isBlank = text.dropWhile isBlank :=
  List.dropWhile_append_of_pos blanks

theorem Cursor.unread_pastBlanks_of_append (blanks : Blanks gap)
    (unreadEq : cursor.unread = gap ++ text) (stopped : ¬ StartsWith isBlank text) :
    cursor.pastBlanks.unread = text := by
  rw [Cursor.unread_pastBlanks, unreadEq, blanks.dropWhile_append,
    dropWhile_of_not_startsWith stopped]

/-- Blanks in front of another character are skipped one by one. -/
theorem Cursor.pastBlanks_eq_advance (blanks : Blanks gap) (unreadEq : cursor.unread = gap ++ text)
    (stopped : ¬ StartsWith isBlank text) : cursor.pastBlanks = cursor.advance gap.length := by
  rw [Cursor.pastBlanks, unreadEq, List.takeWhile_append_of_pos blanks,
    (takeWhile_eq_nil_iff isBlank text).mpr stopped, List.append_nil]

/-- Where no blank stands, there is nothing to skip. -/
theorem Cursor.pastBlanks_of_not_startsWith (stopped : ¬ StartsWith isBlank cursor.unread) :
    cursor.pastBlanks = cursor :=
  Cursor.pastBlanks_eq_advance blanks_nil rfl stopped

theorem Cursor.not_startsWith_pastBlanks (cursor : Cursor) :
    ¬ StartsWith isBlank cursor.pastBlanks.unread := by
  rw [Cursor.unread_pastBlanks]
  exact not_startsWith_dropWhile isBlank cursor.unread

@[simp] theorem Cursor.pastBlanks_pastBlanks (cursor : Cursor) :
    cursor.pastBlanks.pastBlanks = cursor.pastBlanks :=
  Cursor.pastBlanks_of_not_startsWith cursor.not_startsWith_pastBlanks

theorem not_startsWith_isBlank_iff :
    ¬ StartsWith isBlank cursor.unread ↔
      cursor.current ≠ some ' ' ∧ cursor.current ≠ some '\t' := by
  cases unreadEq : cursor.unread with
  | nil => simp [Cursor.current, unreadEq]
  | cons head tail => simp [Cursor.current, unreadEq, isBlank]

end Blanks

namespace Parser

variable {α β : Type}

theorem parse_blanks (cursor : Cursor) : blanks.parse cursor = .success () cursor.pastBlanks :=
  (reads_blanks cursor).success List.takeWhile_append_dropWhile.symm
    ⟨blanks_takeWhile cursor.unread, not_startsWith_dropWhile isBlank cursor.unread⟩

theorem parse_second_blanks (parser : Parser α) (cursor : Cursor) :
    (second blanks parser).parse cursor = parser.parse cursor.pastBlanks := by
  rw [parse_second, parse_blanks, Outcome.success_andThen]

theorem parse_first_blanks (parser : Parser α) (cursor : Cursor) :
    (first parser blanks).parse cursor =
      (parser.parse cursor).andThen fun value next => .success value next.pastBlanks := by
  simp only [parse_first, parse_blanks, Outcome.map_success]

theorem parse_padded (parser : Parser α) (cursor : Cursor) :
    (padded parser).parse cursor =
      (parser.parse cursor.pastBlanks).andThen fun value next =>
        .success value next.pastBlanks := by
  rw [padded, between, parse_second_blanks, parse_first_blanks]

/-! ### Paddings that meet -/

theorem padded_padded (parser : Parser α) : padded (padded parser) = padded parser := by
  apply Parser.ext
  funext cursor
  simp only [parse_padded, Outcome.andThen_assoc, Outcome.success_andThen,
    Cursor.pastBlanks_pastBlanks]

/-- The first padding has skipped what the second one would skip before its parser. -/
theorem padded_both_padded (left : Parser α) (right : Parser β) :
    (padded left).both (padded right) = (padded left).both (first right blanks) := by
  apply Parser.ext
  funext cursor
  simp only [parse_both, parse_padded, parse_first_blanks, Outcome.andThen_assoc,
    Outcome.success_andThen, Cursor.pastBlanks_pastBlanks]

theorem parse_padded_eq_failure_iff {parser : Parser α} {cursor : Cursor} {reason : Failure} :
    (padded parser).parse cursor = .failure reason ↔
      parser.parse cursor.pastBlanks = .failure reason := by
  rw [parse_padded]
  cases parser.parse cursor.pastBlanks <;> simp

theorem parse_padded_eq_success_iff {parser : Parser α} {cursor next : Cursor} {value : α} :
    (padded parser).parse cursor = .success value next ↔
      ∃ between, parser.parse cursor.pastBlanks = .success value between ∧
        between.pastBlanks = next := by
  rw [parse_padded]
  cases parser.parse cursor.pastBlanks <;> simp [and_assoc]

theorem returns_parse_padded_iff {parser : Parser α} {cursor : Cursor} :
    ((padded parser).parse cursor).Returns ↔ (parser.parse cursor.pastBlanks).Returns := by
  rw [parse_padded]
  cases parser.parse cursor.pastBlanks <;> simp

/-- Padding a padded parser changes nothing, and of two paddings that meet the later one may be left
out. A padded parser returns, fails and succeeds where its parser does so after the spaces and tabs
ahead, with the same failure and the same value. Where it succeeds, it has skipped the spaces and
tabs behind what its parser has read, and stands before none. Nothing else is skipped, be it a line
feed or another kind of space. -/
theorem padding_idempotent_and_merging (parser : Parser α) (following : Parser β)
    (cursor : Cursor) :
    (padded (padded parser)).parse cursor = (padded parser).parse cursor ∧
    ((padded parser).both (padded following)).parse cursor =
      ((padded parser).both (first following blanks)).parse cursor ∧
    (∃ gap ahead, cursor.unread = gap ++ ahead ∧ Blanks gap ∧ ¬ StartsWith isBlank ahead ∧
      (∀ reason, (padded parser).parse cursor = .failure reason ↔
        parser.parse (cursor.advance gap.length) = .failure reason) ∧
      (((padded parser).parse cursor).Returns ↔
        (parser.parse (cursor.advance gap.length)).Returns) ∧
      (∀ value between, parser.parse (cursor.advance gap.length) = .success value between →
        (padded parser).parse cursor = .success value between.pastBlanks) ∧
      ∀ value next, (padded parser).parse cursor = .success value next →
        next.current ≠ some ' ' ∧ next.current ≠ some '\t' ∧
        ∃ between trailing, parser.parse (cursor.advance gap.length) = .success value between ∧
          between.unread = trailing ++ next.unread ∧ Blanks trailing ∧
          next = between.advance trailing.length) ∧
    ∀ character, cursor.current = some character → character ≠ ' ' → character ≠ '\t' →
      blanks.parse cursor = .success () cursor ∧
        (padded parser).parse cursor = (first parser blanks).parse cursor := by
  refine ⟨?_, ?_, ?_, fun character currentEq notSpace notTab => ?_⟩
  · rw [padded_padded]
  · rw [padded_both_padded]
  · refine ⟨cursor.unread.takeWhile isBlank, cursor.unread.dropWhile isBlank,
      List.takeWhile_append_dropWhile.symm, blanks_takeWhile cursor.unread,
      not_startsWith_dropWhile isBlank cursor.unread,
      fun reason => parse_padded_eq_failure_iff, returns_parse_padded_iff,
      fun value between read => parse_padded_eq_success_iff.mpr ⟨between, read, rfl⟩,
      fun value next read => ?_⟩
    obtain ⟨between, readBetween, rfl⟩ := parse_padded_eq_success_iff.mp read
    obtain ⟨noSpace, noTab⟩ :=
      not_startsWith_isBlank_iff.mp between.not_startsWith_pastBlanks
    refine ⟨noSpace, noTab, between, between.unread.takeWhile isBlank, readBetween, ?_,
      blanks_takeWhile between.unread, rfl⟩
    rw [Cursor.unread_pastBlanks, List.takeWhile_append_dropWhile]
  · have stopped : ¬ StartsWith isBlank cursor.unread := by
      rw [not_startsWith_isBlank_iff, currentEq]
      simp [notSpace, notTab]
    have stays := Cursor.pastBlanks_of_not_startsWith stopped
    rw [parse_blanks, parse_padded, parse_first_blanks, stays]
    exact ⟨rfl, rfl⟩

/-- An operator between blanks and a line feed, and one behind a wide space. -/
theorem padding_around_operators :
    (padded (char '+')).parse (Cursor.ofText " \t+ \n") =
      .success '+' ((Cursor.ofText " \t+ \n").advance 4) ∧
    (((Cursor.ofText " \t+ \n").advance 4).current ≠ some ' ' ∧
      ((Cursor.ofText " \t+ \n").advance 4).current ≠ some '\t') ∧
    (∃ steps between,
      (char '+').parse ((Cursor.ofText " \t+ \n").advance steps) = .success '+' between ∧
      (padded (char '+')).parse (Cursor.ofText " \t+ \n") = .success '+' between.pastBlanks) ∧
    ((Cursor.ofText "\u3000+").current = some '\u3000' ∧
      '\u3000' ≠ ' ' ∧ '\u3000' ≠ '\t' ∧
      (padded (char '+')).parse (Cursor.ofText "\u3000+") =
        .failure (.charMismatch '+' (some '\u3000'))) := by
  obtain ⟨_, _, ⟨gap, _, _, _, _, _, _, succeeds, read⟩, _⟩ :=
    padding_idempotent_and_merging (char '+') (char '-') (Cursor.ofText " \t+ \n")
  obtain ⟨_, _, _, stays⟩ :=
    padding_idempotent_and_merging (char '+') (char '-') (Cursor.ofText "\u3000+")
  have readPlus : (padded (char '+')).parse (Cursor.ofText " \t+ \n") =
      .success '+' ((Cursor.ofText " \t+ \n").advance 4) := by decide
  obtain ⟨noSpace, noTab, between, _, readBetween, _⟩ := read '+' _ readPlus
  obtain ⟨_, here⟩ := stays '\u3000' rfl (by decide) (by decide)
  refine ⟨readPlus, ⟨noSpace, noTab⟩,
    ⟨gap.length, between, readBetween, succeeds '+' between readBetween⟩,
    rfl, by decide, by decide, ?_⟩
  rw [here]
  rfl

end Parser

end TextGrammar
