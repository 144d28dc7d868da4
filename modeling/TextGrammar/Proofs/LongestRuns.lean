import TextGrammar.Proofs.Padding

/-!
Contract: lexemes as the longest runs of a class of characters.

Owns:
- `LongestRun`, the longest beginning of a text in a class, and that a run is the longest exactly if
  the class does not go on behind it;
- the answers of a repetition over a class of characters;
- `Munches`: a lexer takes the longest run as it is written, and has nothing to take behind it.

A repetition stops where its parser fails, and a parser of one character fails exactly where the
class ends. Digits and letters of other alphabets are outside of the classes here, and so they end a
run as any other character does.
-/

namespace TextGrammar

/-- The text is the longest that stands in front and is made of characters of the class. -/
structure LongestRun (accept : Char → Bool) (text ahead : List Char) : Prop where
  begins : text <+: ahead
  accepted : ∀ character ∈ text, accept character = true
  longest : ∀ other, other <+: ahead → (∀ character ∈ other, accept character = true) →
    other.length ≤ text.length

section LongestRun

variable {accept : Char → Bool} {text rest ahead : List Char}

/-- A longer run would go on with the character behind this one. -/
theorem longestRun_append_iff :
    LongestRun accept text (text ++ rest) ↔
      (∀ character ∈ text, accept character = true) ∧ ¬ StartsWith accept rest := by
  constructor
  · intro run
    refine ⟨run.accepted, fun goesOn => ?_⟩
    cases rest with
    | nil => exact goesOn
    | cons head tail =>
        have longer : text ++ [head] <+: text ++ head :: tail :=
          (List.prefix_append_right_inj text).mpr ⟨tail, rfl⟩
        have longerAccepted : ∀ character ∈ text ++ [head], accept character = true :=
          List.forall_mem_append.mpr ⟨run.accepted, List.forall_mem_singleton.mpr goesOn⟩
        have bound := run.longest _ longer longerAccepted
        rw [List.length_append, List.length_singleton] at bound
        omega
  · rintro ⟨accepted, stopped⟩
    refine ⟨List.prefix_append text rest, accepted, fun other otherBegins otherAccepted => ?_⟩
    rcases List.prefix_or_prefix_of_prefix otherBegins (List.prefix_append text rest) with
      within | ⟨more, rfl⟩
    · exact within.length_le
    · obtain ⟨left, rfl⟩ := (List.prefix_append_right_inj text).mp otherBegins
      cases more with
      | nil => exact Nat.le_of_eq (congrArg List.length (List.append_nil text))
      | cons head tail =>
          exact absurd (otherAccepted head (List.mem_append_right text List.mem_cons_self)) stopped

theorem longestRun_takeWhile (accept : Char → Bool) (ahead : List Char) :
    LongestRun accept (ahead.takeWhile accept) ahead := by
  have run : LongestRun accept (ahead.takeWhile accept)
      (ahead.takeWhile accept ++ ahead.dropWhile accept) :=
    longestRun_append_iff.mpr
      ⟨List.all_eq_true.mp List.all_takeWhile, not_startsWith_dropWhile accept ahead⟩
  rwa [List.takeWhile_append_dropWhile] at run

end LongestRun

namespace Parser

/-- The lexer takes the longest run of the class, as it is written, and fails where there is none.
So it finds nothing more where it has stopped. -/
structure Munches (lexer : Parser String) (accept : Char → Bool) : Prop where
  missing : ∀ cursor : Cursor, ¬ StartsWith accept cursor.unread →
    lexer.parse cursor = .failure .emptyRepetition
  taken : ∀ cursor : Cursor, StartsWith accept cursor.unread →
    ∃ text, LongestRun accept text cursor.unread ∧
      lexer.parse cursor = .success (String.ofList text) (cursor.advance text.length)
  stops : ∀ cursor value next, lexer.parse cursor = .success value next →
    cursor.unread = value.toList ++ next.unread ∧ ¬ StartsWith accept next.unread ∧
      lexer.parse next = .failure .emptyRepetition

section Runs

variable {parser : Parser Char} {accept : Char → Bool}

theorem Reads.parse_many_of_oneOf (reads : parser.Reads (.oneOf accept)) (cursor : Cursor) :
    parser.many.parse cursor =
      .success (cursor.unread.takeWhile accept)
        (cursor.advance (cursor.unread.takeWhile accept).length) := by
  refine (reads.many (Language.proper_oneOf accept) cursor).success
    List.takeWhile_append_dropWhile.symm ?_
  rw [Language.repeated_oneOf_iff]
  exact ⟨rfl, (longestRun_takeWhile accept cursor.unread).accepted,
    not_startsWith_dropWhile accept cursor.unread⟩

/-- What `many1` fails with is its own, whatever the parser has to say of the first character. -/
theorem Reads.parse_many1_of_oneOf (reads : parser.Reads (.oneOf accept)) (cursor : Cursor) :
    parser.many1.parse cursor =
      if cursor.unread.takeWhile accept = [] then .failure .emptyRepetition
      else .success (cursor.unread.takeWhile accept)
        (cursor.advance (cursor.unread.takeWhile accept).length) := by
  rw [parse_many1, reads.parse_many_of_oneOf, Outcome.success_andThen]
  simp only [List.isEmpty_iff]

theorem Reads.munches (reads : parser.Reads (.oneOf accept)) :
    (parser.many1.map String.ofList).Munches accept := by
  have missing : ∀ cursor : Cursor, ¬ StartsWith accept cursor.unread →
      (parser.many1.map String.ofList).parse cursor = .failure .emptyRepetition := by
    intro cursor stopped
    rw [parse_map, reads.parse_many1_of_oneOf,
      if_pos ((takeWhile_eq_nil_iff accept cursor.unread).mpr stopped), Outcome.map_failure]
  refine ⟨missing, fun cursor begun => ?_, fun cursor value next read => ?_⟩
  · refine ⟨cursor.unread.takeWhile accept, longestRun_takeWhile accept cursor.unread, ?_⟩
    have found : cursor.unread.takeWhile accept ≠ [] := fun nothing =>
      (takeWhile_eq_nil_iff accept cursor.unread).mp nothing begun
    rw [parse_map, reads.parse_many1_of_oneOf, if_neg found, Outcome.map_success]
  · obtain ⟨text, unreadEq, ⟨rfl, _, _, stopped⟩, _⟩ := reads.lexeme.of_success read
    rw [String.toList_ofList]
    exact ⟨unreadEq, stopped, missing next stopped⟩

end Runs

/-- Digits and letters are taken in the longest runs that stand at the cursor, as they are written,
and are missed where there are none. Spaces and tabs are skipped in the longest run, be it empty.
Behind a run the class does not go on: the same lexer takes nothing there. -/
theorem lexers_take_longest_runs :
    digits.Munches Char.isDigit ∧ letters.Munches Char.isAlpha ∧
    ∀ cursor : Cursor, ∃ text next,
      LongestRun isBlank text cursor.unread ∧ next = cursor.advance text.length ∧
      blanks.parse cursor = .success () next ∧
      ¬ StartsWith isBlank next.unread ∧ blanks.parse next = .success () next := by
  refine ⟨reads_digit.munches, reads_letter.munches, fun cursor => ?_⟩
  refine ⟨cursor.unread.takeWhile isBlank, cursor.pastBlanks,
    longestRun_takeWhile isBlank cursor.unread, rfl, parse_blanks cursor,
    cursor.not_startsWith_pastBlanks, ?_⟩
  rw [parse_blanks, Cursor.pastBlanks_pastBlanks]

/-- Runs that are ended by a digit, a letter and a space outside of their classes. -/
theorem runs_end_at_digits_and_letters_of_other_alphabets :
    (digits.parse (Cursor.ofText "007٣") = .success "007" ((Cursor.ofText "007٣").advance 3) ∧
      digits.parse ((Cursor.ofText "007٣").advance 3) = .failure .emptyRepetition) ∧
    letters.parse (Cursor.ofText "été") = .failure .emptyRepetition ∧
    ∃ text next, LongestRun isBlank text [' ', '\t', '\u00a0', ' '] ∧
      next = (Cursor.ofText " \t\u00a0 ").advance text.length ∧
      blanks.parse (Cursor.ofText " \t\u00a0 ") = .success () next ∧
      ¬ StartsWith isBlank next.unread ∧ blanks.parse next = .success () next := by
  obtain ⟨digitRuns, letterRuns, blankRuns⟩ := lexers_take_longest_runs
  have read : digits.parse (Cursor.ofText "007٣") =
      .success "007" ((Cursor.ofText "007٣").advance 3) := by decide
  obtain ⟨_, _, again⟩ := digitRuns.stops _ _ _ read
  exact ⟨⟨read, again⟩, letterRuns.missing (Cursor.ofText "été") (by decide),
    blankRuns (Cursor.ofText " \t\u00a0 ")⟩

end Parser

end TextGrammar
