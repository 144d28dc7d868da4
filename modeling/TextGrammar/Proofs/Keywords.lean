import TextGrammar.Proofs.ExpectedText
import TextGrammar.Proofs.Factoring
import TextGrammar.Proofs.OrderedChoice

/-!
Contract: choices between given texts, and between given characters.

Owns:
- the two answers of a given text, by whether it stands at the cursor;
- that a choice of texts reads the first in its list that stands at the cursor, and where none does
  fails as the last one;
- that a choice of characters is the choice of the texts of one character each.

The order of the list decides and not the length of the texts: one that stands in front hides every
other that it begins. Texts of one character cannot begin one another unless they are the same, so
among characters neither order nor repetition shows, except in which of them a failure names.
-/

namespace TextGrammar

theorem length_sharedBeginning_eq_iff {left right : List Char} :
    (sharedBeginning left right).length = left.length ↔ left <+: right := by
  constructor
  · intro whole
    have same := (sharedBeginning_prefix_left left right).eq_of_length whole
    rw [← same]
    exact sharedBeginning_prefix_right left right
  · intro stands
    have atMost := (sharedBeginning_prefix_left left right).length_le
    have atLeast := length_le_sharedBeginning (List.prefix_refl left) stands
    exact Nat.le_antisymm atMost atLeast

namespace Parser

variable {α β : Type}

/-! ### One text -/

section OneText

variable {word : String} {cursor : Cursor}

theorem parse_text_of_stands (stands : word.toList <+: cursor.unread) :
    (text word).parse cursor = .success word (cursor.advance word.length) := by
  have whole := length_sharedBeginning_eq_iff.mpr stands
  rw [parse_text, whole, List.getElem?_eq_none_iff.mpr (Nat.le_refl _), String.length_toList]

theorem exists_missing_of_absent (absent : ¬ word.toList <+: cursor.unread) :
    ∃ missing, word.toList[(sharedBeginning word.toList cursor.unread).length]? = some missing ∧
      (text word).parse cursor = .failure (.charMismatch missing
        cursor.unread[(sharedBeginning word.toList cursor.unread).length]?) := by
  have atMost := (sharedBeginning_prefix_left word.toList cursor.unread).length_le
  have short : (sharedBeginning word.toList cursor.unread).length < word.toList.length :=
    Nat.lt_of_le_of_ne atMost (mt length_sharedBeginning_eq_iff.mp absent)
  have missingEq := List.getElem?_eq_getElem short
  exact ⟨_, missingEq, by rw [parse_text, missingEq]⟩

theorem unread_advance_of_stands (stands : word.toList <+: cursor.unread) :
    cursor.unread = word.toList ++ (cursor.advance word.length).unread := by
  rw [Cursor.unread_advance, ← String.length_toList]
  exact (List.prefix_iff_eq_append.mp stands).symm

end OneText

/-! ### A choice of texts -/

/-- The first of the texts that what lies ahead begins with. -/
def firstStanding (words : List String) (ahead : List Char) : Option String :=
  words.find? fun word => decide (word.toList <+: ahead)

section FirstStanding

variable {word preferred : String} {words others : List String} {ahead : List Char}

theorem firstStanding_cons_of_stands (stands : preferred.toList <+: ahead) :
    firstStanding (preferred :: others) ahead = some preferred :=
  List.find?_cons_of_pos (decide_eq_true stands)

theorem firstStanding_cons_of_absent (absent : ¬ preferred.toList <+: ahead) :
    firstStanding (preferred :: others) ahead = firstStanding others ahead :=
  List.find?_cons_of_neg (by simpa using absent)

theorem firstStanding_eq_none_iff :
    firstStanding words ahead = none ↔ ∀ word ∈ words, ¬ word.toList <+: ahead := by
  simp only [firstStanding, List.find?_eq_none, decide_eq_true_eq]

theorem firstStanding_eq_some_iff :
    firstStanding words ahead = some word ↔
      ∃ front back, words = front ++ word :: back ∧
        (∀ earlier ∈ front, ¬ earlier.toList <+: ahead) ∧ word.toList <+: ahead := by
  rw [firstStanding, List.find?_eq_some_iff_append]
  simp only [decide_eq_true_eq, Bool.not_eq_true', decide_eq_false_iff_not]
  constructor
  · rintro ⟨stands, front, back, split, absent⟩
    exact ⟨front, back, split, absent, stands⟩
  · rintro ⟨front, back, split, absent, stands⟩
    exact ⟨stands, front, back, split, absent⟩

end FirstStanding

/-- The first text that stands at the cursor is read, and if none does the last one answers. By
induction on the list, since a text that does not stand there leaves the choice to those behind. -/
theorem parse_firstSuccess_text (preferred : String) (others : List String) (cursor : Cursor) :
    (firstSuccess (text preferred) (others.map text)).parse cursor =
      match firstStanding (preferred :: others) cursor.unread with
      | some word => .success word (cursor.advance word.length)
      | none => (text ((preferred :: others).getLast (List.cons_ne_nil _ _))).parse cursor := by
  induction others generalizing preferred with
  | nil =>
      rw [List.map_nil, firstSuccess_nil]
      by_cases stands : preferred.toList <+: cursor.unread
      · rw [firstStanding_cons_of_stands stands, parse_text_of_stands stands]
      · rw [firstStanding_cons_of_absent stands]
        rfl
  | cons following others inductionHypothesis =>
      rw [List.map_cons, firstSuccess_cons, parse_orElse]
      by_cases stands : preferred.toList <+: cursor.unread
      · rw [firstStanding_cons_of_stands stands, parse_text_of_stands stands,
          Outcome.success_orElse]
      · obtain ⟨_, _, failed⟩ := exists_missing_of_absent stands
        rw [firstStanding_cons_of_absent stands, failed, Outcome.failure_orElse,
          inductionHypothesis]
        rfl

section Texts

variable {preferred : String} {others : List String} {cursor : Cursor}

theorem parse_firstSuccess_text_of_absent
    (absent : ∀ word ∈ preferred :: others, ¬ word.toList <+: cursor.unread) :
    (firstSuccess (text preferred) (others.map text)).parse cursor =
      (text ((preferred :: others).getLast (List.cons_ne_nil _ _))).parse cursor := by
  rw [parse_firstSuccess_text, firstStanding_eq_none_iff.mpr absent]

theorem parse_firstSuccess_text_eq_success_iff {value : String} {next : Cursor} :
    (firstSuccess (text preferred) (others.map text)).parse cursor = .success value next ↔
      ∃ front back, preferred :: others = front ++ value :: back ∧
        (∀ earlier ∈ front, ¬ earlier.toList <+: cursor.unread) ∧
        cursor.unread = value.toList ++ next.unread ∧ next = cursor.advance value.length := by
  constructor
  · intro read
    cases found : firstStanding (preferred :: others) cursor.unread with
    | none =>
        have absent := firstStanding_eq_none_iff.mp found
        obtain ⟨_, _, failed⟩ :=
          exists_missing_of_absent (absent _ (List.getLast_mem (List.cons_ne_nil _ _)))
        rw [parse_firstSuccess_text_of_absent absent, failed] at read
        contradiction
    | some word =>
        rw [parse_firstSuccess_text, found] at read
        cases read
        obtain ⟨front, back, split, absent, stands⟩ := firstStanding_eq_some_iff.mp found
        exact ⟨front, back, split, absent, unread_advance_of_stands stands, rfl⟩
  · rintro ⟨front, back, split, absent, unreadEq, rfl⟩
    have stands : value.toList <+: cursor.unread := ⟨_, unreadEq.symm⟩
    have found := firstStanding_eq_some_iff.mpr ⟨front, back, split, absent, stands⟩
    rw [parse_firstSuccess_text, found]

theorem exists_success_of_firstSuccess_text_iff :
    (∃ value next, (firstSuccess (text preferred) (others.map text)).parse cursor =
        .success value next) ↔
      ∃ word ∈ preferred :: others, word.toList <+: cursor.unread := by
  constructor
  · rintro ⟨value, next, read⟩
    obtain ⟨front, back, split, _, unreadEq, _⟩ :=
      parse_firstSuccess_text_eq_success_iff.mp read
    exact ⟨value, split ▸ List.mem_append_cons_self, _, unreadEq.symm⟩
  · rintro ⟨word, member, stands⟩
    cases found : firstStanding (preferred :: others) cursor.unread with
    | none => exact absurd stands (firstStanding_eq_none_iff.mp found word member)
    | some value => exact ⟨value, _, by rw [parse_firstSuccess_text, found]⟩

/-- What begins a text also stands where that text does, and is read first. -/
theorem parse_firstSuccess_text_ne_of_begun {front back : List String} {word earlier : String}
    (split : preferred :: others = front ++ word :: back) (fresh : word ∉ front)
    (member : earlier ∈ front) (begins : earlier.toList <+: word.toList) (next : Cursor) :
    (firstSuccess (text preferred) (others.map text)).parse cursor ≠ .success word next := by
  intro read
  obtain ⟨passed, behind, passedSplit, absent, unreadEq, _⟩ :=
    parse_firstSuccess_text_eq_success_iff.mp read
  have stands : word.toList <+: cursor.unread := ⟨_, unreadEq.symm⟩
  refine absent earlier ?_ (begins.trans stands)
  rw [split] at passedSplit
  rcases List.append_eq_append_iff.mp passedSplit with ⟨more, rfl, _⟩ | ⟨more, rfl, behindEq⟩
  · exact List.mem_append_left more member
  · cases more with
    | nil => rwa [List.append_nil] at member
    | cons first more =>
        obtain ⟨rfl, _⟩ := List.cons.inj behindEq
        exact absurd (List.mem_append_right passed List.mem_cons_self) fresh

end Texts

/-! ### A choice of characters -/

theorem text_singleton (expected : Char) :
    text (String.singleton expected) = (char expected).map String.singleton := by
  apply Parser.ext
  funext cursor
  rw [text, String.toList_singleton, List.map_singleton, parse_map, parse_map,
    parse_sequence_cons]
  cases (char expected).parse cursor <;> rfl

theorem firstSuccess_map (f : α → β) (preferred : Parser α) (others : List (Parser α)) :
    firstSuccess (preferred.map f) (others.map (Parser.map f)) =
      (firstSuccess preferred others).map f := by
  induction others generalizing preferred with
  | nil => rfl
  | cons following others inductionHypothesis =>
      rw [List.map_cons, firstSuccess_cons, inductionHypothesis, firstSuccess_cons, map_orElse]

theorem firstSuccess_text_singleton (preferred : Char) (others : List Char) :
    firstSuccess (text (String.singleton preferred))
        (others.map fun character => text (String.singleton character)) =
      (firstSuccess (char preferred) (others.map char)).map String.singleton := by
  simp only [text_singleton, ← firstSuccess_map, List.map_map, Function.comp_def]

section Characters

variable {preferred : Char} {others : List Char} {cursor : Cursor}

theorem parse_firstSuccess_char_of_mem {found : Char} (currentEq : cursor.current = some found)
    (member : found ∈ preferred :: others) :
    (firstSuccess (char preferred) (others.map char)).parse cursor =
      .success found cursor.next := by
  obtain ⟨rest, unreadEq⟩ := Cursor.exists_unread_of_current currentEq
  have reads := reads_firstSuccess_char preferred others cursor
  exact reads.success (unreadEq : _ = [found] ++ rest) ⟨List.contains_iff_mem.mpr member, rfl⟩

theorem parse_firstSuccess_char_of_not_mem
    (absent : ∀ found ∈ preferred :: others, cursor.current ≠ some found) :
    (firstSuccess (char preferred) (others.map char)).parse cursor =
      .failure (.charMismatch ((preferred :: others).getLast (List.cons_ne_nil _ _))
        cursor.current) := by
  induction others generalizing preferred with
  | nil => exact parse_char_of_ne (absent preferred List.mem_cons_self)
  | cons following others inductionHypothesis =>
      rw [List.map_cons, firstSuccess_cons, parse_orElse,
        parse_char_of_ne (absent preferred List.mem_cons_self), Outcome.failure_orElse,
        inductionHypothesis fun found member => absent found (List.mem_cons_of_mem _ member)]
      rfl

theorem parse_firstSuccess_char_eq_success_iff {value : Char} {next : Cursor} :
    (firstSuccess (char preferred) (others.map char)).parse cursor = .success value next ↔
      cursor.current = some value ∧ value ∈ preferred :: others ∧ next = cursor.next := by
  constructor
  · intro read
    by_cases present : ∃ found ∈ preferred :: others, cursor.current = some found
    · obtain ⟨found, member, currentEq⟩ := present
      rw [parse_firstSuccess_char_of_mem currentEq member] at read
      cases read
      exact ⟨currentEq, member, rfl⟩
    · rw [parse_firstSuccess_char_of_not_mem (by simpa using present)] at read
      contradiction
  · rintro ⟨currentEq, member, rfl⟩
    exact parse_firstSuccess_char_of_mem currentEq member

theorem parse_firstSuccess_char_eq_failure_iff {reason : Failure} :
    (firstSuccess (char preferred) (others.map char)).parse cursor = .failure reason ↔
      (∀ found ∈ preferred :: others, cursor.current ≠ some found) ∧
        reason = .charMismatch ((preferred :: others).getLast (List.cons_ne_nil _ _))
          cursor.current := by
  constructor
  · intro failed
    by_cases present : ∃ found ∈ preferred :: others, cursor.current = some found
    · obtain ⟨found, member, currentEq⟩ := present
      rw [parse_firstSuccess_char_of_mem currentEq member] at failed
      contradiction
    · have absent : ∀ found ∈ preferred :: others, cursor.current ≠ some found := by
        simpa using present
      rw [parse_firstSuccess_char_of_not_mem absent] at failed
      cases failed
      exact ⟨absent, rfl⟩
  · rintro ⟨absent, rfl⟩
    exact parse_firstSuccess_char_of_not_mem absent

end Characters

/-! ### Lists that are long enough -/

theorem exists_choiceOfList_map {ι : Type} (parserOf : ι → Parser α) {items : List ι}
    (long : 2 ≤ items.length) :
    ∃ preferred others, items = preferred :: others ∧
      choiceOfList (items.map parserOf) =
        .ok (firstSuccess (parserOf preferred) (others.map parserOf)) := by
  match items, long with
  | preferred :: second :: others, _ => exact ⟨preferred, second :: others, rfl, rfl⟩

theorem exists_anyOfList_eq {characters : List Char} (long : 2 ≤ characters.length) :
    ∃ preferred others, characters = preferred :: others ∧
      anyOfList characters = .ok (firstSuccess (char preferred) (others.map char)) := by
  match characters, long with
  | preferred :: second :: others, _ => exact ⟨preferred, second :: others, rfl, rfl⟩

theorem anyOfList_of_short {characters : List Char} (short : characters.length < 2) :
    anyOfList characters = .error (.tooFewAlternatives .anyOf characters.length) := by
  have refused := Alternatives.ofList_eq_error_iff.mpr
    ⟨short, (rfl : _ = ConstructionError.tooFewAlternatives .anyOf characters.length)⟩
  rw [anyOfList, refused]
  rfl

/-- A choice of texts succeeds exactly where one of them stands at the cursor, and reads the first
of its list that does. So a text that another one begins is not read in its place behind that one,
however much longer it is. Where none stands at the cursor, the choice fails as its last text does,
at the first character in which that one differs. A choice of characters answers what the choice of
the texts of one character each answers: it reads the next character if that is among its own, in
whatever order and however often they are listed, and otherwise names the last of them. A list with
fewer than two characters is refused together with its length. -/
theorem texts_read_in_list_order_and_characters_by_membership :
    (∀ words : List String, 2 ≤ words.length →
      ∃ built last, choiceOfList (words.map text) = .ok built ∧ words.getLast? = some last ∧
        ∀ cursor,
          ((∃ value next, built.parse cursor = .success value next) ↔
            ∃ word ∈ words, word.toList <+: cursor.unread) ∧
          (∀ value next, built.parse cursor = .success value next ↔
            ∃ front back, words = front ++ value :: back ∧
              (∀ earlier ∈ front, ¬ earlier.toList <+: cursor.unread) ∧
              cursor.unread = value.toList ++ next.unread ∧
              next = cursor.advance value.length) ∧
          (∀ front word back, words = front ++ word :: back → word ∉ front →
            (∃ earlier ∈ front, earlier.toList <+: word.toList) →
            ∀ next, built.parse cursor ≠ .success word next) ∧
          ((∀ word ∈ words, ¬ word.toList <+: cursor.unread) →
            let shared := sharedBeginning last.toList cursor.unread
            built.parse cursor = (text last).parse cursor ∧
              ∃ missing, last.toList[shared.length]? = some missing ∧
                built.parse cursor =
                  .failure (.charMismatch missing cursor.unread[shared.length]?))) ∧
    (∀ characters : List Char, 2 ≤ characters.length →
      ∃ one words last, anyOfList characters = .ok one ∧
        choiceOfList (characters.map fun character => text (String.singleton character)) =
          .ok words ∧
        characters.getLast? = some last ∧
        ∀ cursor,
          words.parse cursor = (one.parse cursor).map String.singleton ∧
          (∀ value next, one.parse cursor = .success value next ↔
            cursor.current = some value ∧ value ∈ characters ∧ next = cursor.next) ∧
          ∀ reason, one.parse cursor = .failure reason ↔
            (∀ found ∈ characters, cursor.current ≠ some found) ∧
              reason = ⟨.matchMismatch, "expected '" ++ String.singleton last ++ "' got '" ++
                Failure.foundText cursor.current ++ "'", .matchChar⟩) ∧
    ∀ characters : List Char, characters.length < 2 →
      anyOfList characters = .error (.tooFewAlternatives .anyOf characters.length) := by
  refine ⟨fun words long => ?_, fun characters long => ?_, fun characters short =>
    anyOfList_of_short short⟩
  · obtain ⟨preferred, others, rfl, built⟩ := exists_choiceOfList_map text long
    refine ⟨_, _, built, List.getLast?_eq_some_getLast (List.cons_ne_nil _ _), fun cursor =>
      ⟨exists_success_of_firstSuccess_text_iff,
        fun value next => parse_firstSuccess_text_eq_success_iff, ?_, fun absent => ?_⟩⟩
    · rintro front word back split fresh ⟨earlier, member, begins⟩ next
      exact parse_firstSuccess_text_ne_of_begun split fresh member begins next
    · obtain ⟨missing, missingEq, failed⟩ :=
        exists_missing_of_absent (absent _ (List.getLast_mem (List.cons_ne_nil _ _)))
      have asLast := parse_firstSuccess_text_of_absent absent
      exact ⟨asLast, missing, missingEq, asLast.trans failed⟩
  · obtain ⟨preferred, others, rfl, one⟩ := exists_anyOfList_eq long
    obtain ⟨first, rest, sameList, words⟩ :=
      exists_choiceOfList_map (fun character => text (String.singleton character)) long
    cases sameList
    refine ⟨_, _, _, one, words, List.getLast?_eq_some_getLast (List.cons_ne_nil _ _),
      fun cursor => ⟨?_, fun value next => ?_, fun reason => ?_⟩⟩
    · rw [firstSuccess_text_singleton, parse_map]
    · exact parse_firstSuccess_char_eq_success_iff
    · exact parse_firstSuccess_char_eq_failure_iff

/-- A short keyword in front of two that it begins, read and missed; operators of which one is
listed twice; and a single character. -/
theorem keywords_that_begin_one_another :
    (2 ≤ ["in", "integer", "int"].length ∧
      ("integer" ∉ ["in"] ∧ "in".toList <+: "integer".toList) ∧
      (∀ word ∈ ["in", "integer", "int"], ¬ word.toList <+: (Cursor.ofText "is").unread) ∧
      ∃ built, choiceOfList (["in", "integer", "int"].map text) = .ok built ∧
        built.parse (Cursor.ofText "integer") =
          .success "in" ((Cursor.ofText "integer").advance 2) ∧
        (∀ next, built.parse (Cursor.ofText "integer") ≠ .success "integer" next) ∧
        built.parse (Cursor.ofText "is") =
          .failure ⟨.matchMismatch, "expected 'n' got 's'", .matchChar⟩) ∧
    (2 ≤ ['+', '-', '+'].length ∧
      ∃ one, anyOfList ['+', '-', '+'] = .ok one ∧
        one.parse (Cursor.ofText "-1") = .success '-' (Cursor.ofText "-1").next ∧
        one.parse (Cursor.ofText "x") =
          .failure ⟨.matchMismatch, "expected '+' got 'x'", .matchChar⟩) ∧
    (['+'].length < 2 ∧ anyOfList ['+'] = .error (.tooFewAlternatives .anyOf 1)) := by
  obtain ⟨ofTexts, ofCharacters, refused⟩ :=
    texts_read_in_list_order_and_characters_by_membership
  obtain ⟨built, last, builtEq, lastEq, answers⟩ :=
    ofTexts ["in", "integer", "int"] (by decide)
  obtain ⟨one, _, lastOperator, oneEq, _, lastOperatorEq, operatorAnswers⟩ :=
    ofCharacters ['+', '-', '+'] (by decide)
  cases lastEq
  cases lastOperatorEq
  obtain ⟨_, read, hidden, _⟩ := answers (Cursor.ofText "integer")
  obtain ⟨_, _, _, missed⟩ := answers (Cursor.ofText "is")
  obtain ⟨_, missing, missingEq, failed⟩ := missed (by decide)
  cases missingEq
  obtain ⟨_, operatorRead, _⟩ := operatorAnswers (Cursor.ofText "-1")
  obtain ⟨_, _, operatorMissed⟩ := operatorAnswers (Cursor.ofText "x")
  refine ⟨⟨by decide, by decide, by decide, built, builtEq, ?_, ?_, failed⟩,
    ⟨by decide, one, oneEq, ?_, ?_⟩, by decide, refused ['+'] (by decide)⟩
  · exact (read "in" _).mpr ⟨[], ["integer", "int"], rfl, by decide, rfl, rfl⟩
  · exact hidden ["in"] "integer" ["int"] rfl (by decide) ⟨"in", by decide, by decide⟩
  · exact (operatorRead '-' _).mpr ⟨rfl, by decide, rfl⟩
  · have stands : (Cursor.ofText "x").current = some 'x' := by decide
    have unlisted : 'x' ∉ ['+', '-', '+'] := by decide
    refine (operatorMissed _).mpr ⟨fun found member same => unlisted ?_, rfl⟩
    cases stands.symm.trans same
    exact member

end Parser

end TextGrammar
