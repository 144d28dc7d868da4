import TextGrammar.Proofs.Laws
import TextGrammar.Proofs.MaximalRepetition

/-!
Contract: alternatives that begin alike, and alternatives that end alike.

Owns:
- left factoring: a beginning that all alternatives share can be read once, before the choice;
- that an element of a lenient list is two alternatives factored to the left, and so the list is a
  repetition of alternatives that read every element a second time where no separator follows it;
- right factoring: a choice before a shared ending, and the one case in which it reads less than
  the alternatives with the ending in each.

Every alternative of a choice begins at the same cursor, so what they share at their beginning
answers the same each time. What follows a choice runs once, after the alternative that has
succeeded: if it fails there, the alternatives behind that one are not tried.
-/

namespace TextGrammar

namespace Parser

variable {α β γ : Type}

/-! ### A shared beginning -/

theorem map_orElse (f : α → β) (preferred alternative : Parser α) :
    (preferred.orElse alternative).map f = (preferred.map f).orElse (alternative.map f) := by
  apply Parser.ext
  funext cursor
  rw [parse_map, parse_orElse, parse_orElse, parse_map]
  cases preferred.parse cursor <;> rfl

theorem bind_orElse_bind (parser : Parser α) (preferred alternative : α → Parser β) :
    (parser.bind preferred).orElse (parser.bind alternative) =
      parser.bind fun value => (preferred value).orElse (alternative value) := by
  apply Parser.ext
  funext cursor
  rw [parse_orElse, parse_bind, parse_bind, parse_bind]
  cases parser.parse cursor <;> rfl

theorem both_orElse_both (parser : Parser α) (preferred alternative : Parser β) :
    (parser.both preferred).orElse (parser.both alternative) =
      parser.both (preferred.orElse alternative) := by
  simp only [both_eq_bind, bind_orElse_bind, map_orElse]

/-- The alternatives are factored one after the other, the last one first. -/
theorem firstSuccess_map_bind (parser : Parser α) (preferred : α → Parser β)
    (others : List (α → Parser β)) :
    firstSuccess (parser.bind preferred) (others.map parser.bind) =
      parser.bind fun value => firstSuccess (preferred value) (others.map (· value)) := by
  induction others generalizing preferred with
  | nil => rfl
  | cons following others inductionHypothesis =>
      rw [List.map_cons, firstSuccess_cons, inductionHypothesis, bind_orElse_bind]
      rfl

theorem choice_map_bind (parser : Parser α) (continuations : Alternatives (α → Parser β)) :
    choice (continuations.map parser.bind) =
      parser.bind fun value => choice (continuations.map (· value)) :=
  firstSuccess_map_bind parser continuations.first
    (continuations.second :: continuations.others)

/-! ### Elements as alternatives -/

theorem first_eq_bind (kept : Parser α) (dropped : Parser β) :
    first kept dropped = kept.bind fun value => dropped.map fun _ => value := by
  rw [first, both_eq_bind, map_bind]
  simp only [map_map]

/-- With the separator and without it an element begins alike, and is read once. -/
theorem choice_first_eq_element (parser : Parser α) (separator : Parser β) :
    choice ⟨first parser separator, parser, []⟩ = element parser separator := by
  calc choice ⟨first parser separator, parser, []⟩
      = (first parser separator).orElse (parser.bind succeed) := by rw [bind_succeed]; rfl
    _ = element parser separator := by rw [first_eq_bind, bind_orElse_bind, element_eq_bind]

/-- A separator that may be missing ends an element in the same two ways. -/
theorem first_optional_eq_element (parser : Parser α) (separator : Parser β) :
    first parser separator.optional = element parser separator := by
  have missing : ∀ value : α, separator.optional.map (fun _ => value) =
      (separator.map fun _ => value).orElse (succeed value) := by
    intro value
    rw [optional_eq_orElse, map_orElse, map_map]
    rfl
  rw [first_eq_bind, element_eq_bind]
  simp only [missing]

/-- A lenient list fails where its first element does, and ends at an element that fails. -/
theorem Progressive.parse_separatedBy {parser : Parser α} {separator : Parser β}
    (progressive : parser.Progressive) (separatorRegular : separator.Regular) (cursor : Cursor) :
    (∃ reason, parser.parse cursor = .failure reason ∧
      (separatedBy parser separator).parse cursor = .failure .emptyRepetition) ∨
    ∃ values last reason, values ≠ [] ∧
      (separatedBy parser separator).parse cursor = .success values last ∧
      parser.parse last = .failure reason := by
  have elementProgressive := progressive.element separatorRegular
  cases first : (parser.element separator).parse cursor with
  | endless => exact absurd first (elementProgressive.total cursor)
  | failure reason =>
      exact .inl ⟨reason, parse_element_eq_failure_iff.mp first, parse_many1_of_failure first⟩
  | success value next =>
      obtain ⟨values, last, read⟩ :=
        elementProgressive.total.exists_parse_many elementProgressive.consumes cursor
      obtain ⟨_, reason, stopped⟩ :=
        (parse_many_eq_success_iff elementProgressive.consumes).mp read
      rw [← parse_many1_of_success elementProgressive.consumes first] at read
      exact .inr ⟨values, last, reason, (parse_many1_eq_success_iff.mp read).1, read,
        parse_element_eq_failure_iff.mp stopped⟩

/-- An element answers what the choice between it with its separator and it alone answers, which
would read it twice. So a lenient list is the repetition of that choice, and of the element with a
separator that may be missing. If the element consumes and both return, it has an answer. -/
theorem separatedBy_eq_many1_of_alternatives (parser : Parser α) (separator : Parser β) :
    (∀ cursor, (element parser separator).parse cursor =
      (choice ⟨first parser separator, parser, []⟩).parse cursor) ∧
    (∀ cursor, (separatedBy parser separator).parse cursor =
        (choice ⟨first parser separator, parser, []⟩).many1.parse cursor ∧
      (separatedBy parser separator).parse cursor =
        (first parser separator.optional).many1.parse cursor) ∧
    (parser.Progressive → separator.Regular → ∀ cursor,
      (∃ reason, parser.parse cursor = .failure reason ∧
        (separatedBy parser separator).parse cursor = .failure .emptyRepetition) ∨
      ∃ values last reason, values ≠ [] ∧
        (separatedBy parser separator).parse cursor = .success values last ∧
        parser.parse last = .failure reason) := by
  refine ⟨fun cursor => ?_, fun cursor => ?_, fun progressive regular cursor => ?_⟩
  · rw [choice_first_eq_element]
  · rw [choice_first_eq_element, first_optional_eq_element, separatedBy]
    exact ⟨rfl, rfl⟩
  · exact progressive.parse_separatedBy regular cursor

/-- Pairs of letters with a comma between them, or with none. -/
theorem separatedBy_of_pairs_eq_many1_of_alternatives :
    (choice ⟨first (text "ab") (char ','), text "ab", []⟩).many1.parse
        (Cursor.ofText "ab,ababa") =
      .success ["ab", "ab", "ab"] (.inside ['b', 'a', 'b', 'a', ',', 'b', 'a'] ['a']) ∧
    (first (text "ab") (char ',').optional).many1.parse (Cursor.ofText "ab,ababa") =
      .success ["ab", "ab", "ab"] (.inside ['b', 'a', 'b', 'a', ',', 'b', 'a'] ['a']) ∧
    (separatedBy (text "ab") (char ',')).parse (Cursor.ofText "a,ab") =
      .failure .emptyRepetition := by
  have progressive : (text "ab").Progressive := progressive_text (by decide)
  have commaRegular : (char ',').Regular := (progressive_char ',').toRegular
  obtain ⟨_, same, answers⟩ := separatedBy_eq_many1_of_alternatives (text "ab") (char ',')
  obtain ⟨alternatives, optional⟩ := same (Cursor.ofText "ab,ababa")
  refine ⟨alternatives.symm, optional.symm, ?_⟩
  rcases answers progressive commaRegular (Cursor.ofText "a,ab") with
    ⟨_, _, empty⟩ | ⟨values, last, _, _, read, _⟩
  · exact empty
  · contradiction

/-! ### A shared ending -/

section RightFactoring

variable {parser : Parser α} (alternative : Parser α) {ending : Parser β} {cursor : Cursor}

/-- The alternative that has succeeded is kept, and fails with its ending. -/
theorem parse_orElse_both_of_committed {value : α} {between : Cursor} {reason : Failure}
    (read : parser.parse cursor = .success value between)
    (failed : ending.parse between = .failure reason) :
    ((parser.orElse alternative).both ending).parse cursor = .failure reason ∧
      ((parser.both ending).orElse (alternative.both ending)).parse cursor =
        (alternative.both ending).parse cursor := by
  simp [read, failed]

/-- Where no ending fails after the first alternative, nothing is lost by the commitment. -/
theorem parse_orElse_both_of_uncommitted
    (uncommitted : ∀ value between, parser.parse cursor = .success value between →
      ∀ reason, ending.parse between ≠ .failure reason) :
    ((parser.orElse alternative).both ending).parse cursor =
      ((parser.both ending).orElse (alternative.both ending)).parse cursor := by
  simp only [parse_orElse, parse_both]
  cases read : parser.parse cursor with
  | endless => rfl
  | failure reason => rfl
  | success value between =>
      simp only [Outcome.success_orElse, Outcome.success_andThen]
      cases ended : ending.parse between with
      | endless => rfl
      | failure reason => exact absurd ended (uncommitted value between read reason)
      | success other last => rfl

end RightFactoring

/-- Alternatives that begin alike answer what the beginning answers with a choice after it, the
failure included, however many they are. Alternatives that end alike answer what the choice answers
with the ending after it, unless the ending fails after the first alternative: then that failure
stands, and only with an ending in each is the second alternative tried. -/
theorem left_factoring_keeps_and_right_factoring_commits (parser : Parser α) :
    (∀ continuations : List (α → Parser β), 2 ≤ continuations.length →
      ∃ branch : α → Parser β,
        (∀ value, choiceOfList (continuations.map (· value)) = .ok (branch value)) ∧
        choiceOfList (continuations.map parser.bind) = .ok (parser.bind branch)) ∧
    (∀ preferred alternative : Parser β,
      (parser.both preferred).orElse (parser.both alternative) =
        parser.both (preferred.orElse alternative)) ∧
    ∀ (alternative : Parser α) (ending : Parser β) (cursor : Cursor),
      (∀ value last,
        ((parser.orElse alternative).both ending).parse cursor = .success value last →
        ((parser.both ending).orElse (alternative.both ending)).parse cursor =
          .success value last) ∧
      ∀ value last,
        ((parser.both ending).orElse (alternative.both ending)).parse cursor =
          .success value last →
        ((parser.orElse alternative).both ending).parse cursor ≠ .success value last →
        ∃ first between reason, parser.parse cursor = .success first between ∧
          ending.parse between = .failure reason ∧
          ((parser.orElse alternative).both ending).parse cursor = .failure reason ∧
          (alternative.both ending).parse cursor = .success value last := by
  refine ⟨?_, both_orElse_both parser, fun alternative ending cursor => ?_⟩
  · intro continuations long
    match continuations, long with
    | first :: second :: others, _ =>
        refine ⟨fun value => choice ⟨first value, second value, others.map (· value)⟩,
          fun value => rfl, ?_⟩
        exact congrArg Except.ok (choice_map_bind parser ⟨first, second, others⟩)
  -- The two ways to share the ending differ only where the choice has committed to `parser` and the
  -- ending then fails.
  · by_cases committed : ∃ first between reason,
      parser.parse cursor = .success first between ∧ ending.parse between = .failure reason
    · obtain ⟨first, between, reason, read, failed⟩ := committed
      obtain ⟨stays, goesOn⟩ := parse_orElse_both_of_committed alternative read failed
      rw [stays, goesOn]
      refine ⟨fun value last same => by contradiction, fun value last succeeded _ => ?_⟩
      exact ⟨first, between, reason, read, failed, rfl, succeeded⟩
    · have same := parse_orElse_both_of_uncommitted alternative
        fun first between read reason failed =>
          committed ⟨first, between, reason, read, failed⟩
      rw [same]
      exact ⟨fun _ _ succeeded => succeeded, fun _ _ succeeded differs => absurd succeeded differs⟩

/-- One letter with three continuations; and a letter or a pair in front of a third letter, where
the letter is kept and the pair is not tried. -/
theorem factoring_around_one_letter :
    (∃ branch : Char → Parser Char,
      choiceOfList ([fun _ => char 'b', char, fun _ => anyChar].map (char 'a').bind) =
        .ok ((char 'a').bind branch) ∧
      choiceOfList [char 'b', char 'a', anyChar] = .ok (branch 'a')) ∧
    (((text "a").both (char 'c')).orElse ((text "ab").both (char 'c'))).parse
      (Cursor.ofText "abc") = .success ("ab", 'c') (.atEnd ['c', 'b', 'a']) ∧
    (((text "a").orElse (text "ab")).both (char 'c')).parse (Cursor.ofText "abc") =
      .failure (.charMismatch 'c' (some 'b')) := by
  obtain ⟨left, _, _⟩ := left_factoring_keeps_and_right_factoring_commits (char 'a')
  obtain ⟨branch, built, factored⟩ :=
    left [fun _ => char 'b', char, fun _ => anyChar] (by decide)
  obtain ⟨_, _, right⟩ := left_factoring_keeps_and_right_factoring_commits (text "a")
  obtain ⟨_, commits⟩ := right (text "ab") (char 'c') (Cursor.ofText "abc")
  obtain ⟨first, between, reason, read, failed, stays, _⟩ :=
    commits ("ab", 'c') (.atEnd ['c', 'b', 'a']) rfl (by decide)
  refine ⟨⟨branch, factored, built 'a'⟩, rfl, ?_⟩
  have letter : (text "a").parse (Cursor.ofText "abc") =
      .success "a" (.inside ['a'] ['b', 'c']) := rfl
  cases letter.symm.trans read
  cases failed
  exact stays

end Parser

end TextGrammar
