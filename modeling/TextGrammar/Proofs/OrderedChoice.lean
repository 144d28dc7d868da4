import TextGrammar.Parser.Alternation
import TextGrammar.Parser.Sequence

/-!
Contract: a choice as folds from its two ends, and which of its alternatives answers for it.

Owns:
- that a choice is the left fold and the right fold of its alternatives, and that it keeps one
  outcome while it goes through them;
- that two choices in a row are one, and that an alternative which is a choice itself may be
  replaced by its own alternatives;
- which alternative answers for a choice: the first that does not fail, or else the last.

Trying one parser after another is associative, since each begins at the same cursor and only the
failure of the last is kept. The left fold is therefore the sequence of the alternatives as they
stand, and everything about lists put together is read off it.
-/

namespace TextGrammar.Parser

variable {α : Type}

/-! ### Folds -/

theorem firstSuccess_orElse (preferred second : Parser α) (others : List (Parser α)) :
    firstSuccess (preferred.orElse second) others =
      preferred.orElse (firstSuccess second others) := by
  cases others with
  | nil => rfl
  | cons following others => rw [firstSuccess_cons, firstSuccess_cons, orElse_assoc]

theorem firstSuccess_eq_foldl (preferred : Parser α) (others : List (Parser α)) :
    firstSuccess preferred others = others.foldl orElse preferred := by
  induction others generalizing preferred with
  | nil => rfl
  | cons following others inductionHypothesis =>
      rw [List.foldl_cons, ← inductionHypothesis, firstSuccess_orElse, firstSuccess_cons]

theorem firstSuccess_eq_foldr (preferred last : Parser α) (front : List (Parser α)) :
    firstSuccess preferred (front ++ [last]) = (preferred :: front).foldr orElse last := by
  induction front generalizing preferred with
  | nil => rfl
  | cons following front inductionHypothesis =>
      rw [List.cons_append, firstSuccess_cons, inductionHypothesis]
      rfl

/-- The outcome so far is replaced where it is a failure. -/
theorem parse_foldl_orElse (preferred : Parser α) (others : List (Parser α)) (cursor : Cursor) :
    (others.foldl orElse preferred).parse cursor =
      others.foldl (fun outcome item => outcome.orElse fun _ => item.parse cursor)
        (preferred.parse cursor) := by
  induction others generalizing preferred with
  | nil => rfl
  | cons following others inductionHypothesis =>
      rw [List.foldl_cons, inductionHypothesis, List.foldl_cons, parse_orElse]

/-! ### Lists put together -/

theorem firstSuccess_append (preferred following : Parser α) (others behind : List (Parser α)) :
    firstSuccess preferred (others ++ following :: behind) =
      (firstSuccess preferred others).orElse (firstSuccess following behind) := by
  rw [firstSuccess_eq_foldl, List.foldl_append, List.foldl_cons, ← firstSuccess_eq_foldl,
    ← firstSuccess_eq_foldl, firstSuccess_orElse]

/-- Alternatives of the first alternative are tried before the other ones. -/
theorem firstSuccess_firstSuccess (preferred : Parser α) (inner behind : List (Parser α)) :
    firstSuccess (firstSuccess preferred inner) behind =
      firstSuccess preferred (inner ++ behind) := by
  rw [firstSuccess_eq_foldl, firstSuccess_eq_foldl, firstSuccess_eq_foldl, List.foldl_append]

/-- Alternatives of any other alternative are tried in its place. -/
theorem firstSuccess_splice (preferred first : Parser α) (front inner behind : List (Parser α)) :
    firstSuccess preferred (front ++ firstSuccess first inner :: behind) =
      firstSuccess preferred (front ++ first :: (inner ++ behind)) := by
  rw [firstSuccess_append, firstSuccess_append, firstSuccess_firstSuccess]

theorem choiceOfList_cons (preferred : Parser α) {others : List (Parser α)}
    (filled : others ≠ []) :
    choiceOfList (preferred :: others) = .ok (firstSuccess preferred others) := by
  cases others with
  | nil => exact absurd rfl filled
  | cons following others => rfl

theorem choiceOfList_of_short {parsers : List (Parser α)} (short : parsers.length < 2) :
    choiceOfList parsers = .error (.tooFewAlternatives .choice parsers.length) := by
  have refused := Alternatives.ofList_eq_error_iff.mpr
    ⟨short, (rfl : _ = ConstructionError.tooFewAlternatives .choice parsers.length)⟩
  rw [choiceOfList, refused]
  rfl

/-- A list that is long enough has a first and a last alternative, at two different places. -/
theorem exists_choiceOfList_eq {parsers : List (Parser α)} (long : 2 ≤ parsers.length) :
    ∃ first middle last, parsers = first :: (middle ++ [last]) ∧
      choiceOfList parsers = .ok (firstSuccess first (middle ++ [last])) := by
  match parsers, long with
  | first :: second :: others, _ =>
      have split := List.dropLast_concat_getLast (List.cons_ne_nil second others)
      refine ⟨first, _, _, congrArg (first :: ·) split.symm, ?_⟩
      rw [split]
      rfl

theorem exists_choiceOfList_append {left right : List (Parser α)} (leftLong : 2 ≤ left.length)
    (rightLong : 2 ≤ right.length) :
    ∃ leftBuilt rightBuilt, choiceOfList left = .ok leftBuilt ∧
      choiceOfList right = .ok rightBuilt ∧
      choiceOfList (left ++ right) = .ok (leftBuilt.orElse rightBuilt) := by
  obtain ⟨first, middle, last, rfl, leftEq⟩ := exists_choiceOfList_eq leftLong
  obtain ⟨following, others, final, rfl, rightEq⟩ := exists_choiceOfList_eq rightLong
  refine ⟨_, _, leftEq, rightEq, ?_⟩
  rw [← firstSuccess_append, List.cons_append]
  exact choiceOfList_cons first (by simp)

theorem exists_choiceOfList_splice {front inner back : List (Parser α)}
    (innerLong : 2 ≤ inner.length) (surrounded : front ++ back ≠ []) :
    ∃ nested built, choiceOfList inner = .ok nested ∧
      choiceOfList (front ++ nested :: back) = .ok built ∧
      choiceOfList (front ++ inner ++ back) = .ok built := by
  obtain ⟨first, middle, last, rfl, innerEq⟩ := exists_choiceOfList_eq innerLong
  cases front with
  | nil =>
      refine ⟨_, _, innerEq, choiceOfList_cons _ surrounded, ?_⟩
      rw [firstSuccess_firstSuccess]
      exact choiceOfList_cons first (by simp)
  | cons preferred front =>
      refine ⟨_, firstSuccess preferred (front ++ firstSuccess first (middle ++ [last]) :: back),
        innerEq, choiceOfList_cons preferred (by simp), ?_⟩
      rw [firstSuccess_splice, List.append_assoc]
      exact choiceOfList_cons preferred (by simp)

/-! ### The alternative that answers -/

/-- All parsers of a list fail at the cursor. -/
def AllFail (items : List (Parser α)) (cursor : Cursor) : Prop :=
  ∀ item ∈ items, ∃ reason, item.parse cursor = .failure reason

section Answers

variable {preferred : Parser α} {others : List (Parser α)} {cursor : Cursor}

theorem allFail_nil (cursor : Cursor) : AllFail ([] : List (Parser α)) cursor :=
  fun _ member => by contradiction

theorem allFail_cons_iff {item : Parser α} {items : List (Parser α)} :
    AllFail (item :: items) cursor ↔
      (∃ reason, item.parse cursor = .failure reason) ∧ AllFail items cursor :=
  List.forall_mem_cons

theorem parse_firstSuccess_eq_success_iff {value : α} {next : Cursor} :
    (firstSuccess preferred others).parse cursor = .success value next ↔
      ∃ front item back, preferred :: others = front ++ item :: back ∧ AllFail front cursor ∧
        item.parse cursor = .success value next := by
  induction others generalizing preferred with
  | nil =>
      constructor
      · intro read
        exact ⟨[], preferred, [], rfl, allFail_nil cursor, read⟩
      · intro found
        obtain ⟨front, item, back, split, _, read⟩ := found
        rcases List.cons_eq_append_iff.mp split with ⟨_, here⟩ | ⟨_, _, behind⟩
        · cases here
          exact read
        · simp at behind
  | cons following others inductionHypothesis =>
      rw [firstSuccess_cons, parse_orElse, Outcome.orElse_eq_success_iff, inductionHypothesis]
      constructor
      · rintro (read | ⟨failed, front, item, back, split, fails, read⟩)
        · exact ⟨[], preferred, following :: others, rfl, allFail_nil cursor, read⟩
        · exact ⟨preferred :: front, item, back, congrArg (preferred :: ·) split,
            allFail_cons_iff.mpr ⟨failed, fails⟩, read⟩
      · intro found
        obtain ⟨front, item, back, split, fails, read⟩ := found
        rcases List.cons_eq_append_iff.mp split with ⟨_, here⟩ | ⟨front, rfl, behind⟩
        · cases here
          exact .inl read
        · obtain ⟨failed, frontFails⟩ := allFail_cons_iff.mp fails
          exact .inr ⟨failed, front, item, back, behind, frontFails, read⟩

theorem parse_firstSuccess_eq_failure_iff {middle : List (Parser α)} {last : Parser α}
    {reason : Failure} :
    (firstSuccess preferred (middle ++ [last])).parse cursor = .failure reason ↔
      AllFail (preferred :: middle) cursor ∧ last.parse cursor = .failure reason := by
  induction middle generalizing preferred with
  | nil =>
      rw [List.nil_append, firstSuccess_cons, parse_orElse, Outcome.orElse_eq_failure_iff,
        firstSuccess_nil, allFail_cons_iff]
      exact ⟨fun ⟨failed, same⟩ => ⟨⟨failed, allFail_nil cursor⟩, same⟩,
        fun ⟨⟨failed, _⟩, same⟩ => ⟨failed, same⟩⟩
  | cons following middle inductionHypothesis =>
      rw [List.cons_append, firstSuccess_cons, parse_orElse, Outcome.orElse_eq_failure_iff,
        inductionHypothesis, @allFail_cons_iff _ _ preferred, and_assoc]

end Answers

/-- A list with fewer than two parsers is refused together with its length. A choice built from any
other list answers at every cursor what the folds of `orElse` from its two ends answer: it succeeds
as the first of its parsers does that succeeds there, and fails as the last one if they all fail.
Two choices in a row are the choice built from both lists, and a choice among the parsers of another
one may be replaced by its own parsers. -/
theorem choice_eq_folds_and_flattens :
    (∀ parsers : List (Parser α), parsers.length < 2 →
      choiceOfList parsers = .error (.tooFewAlternatives .choice parsers.length)) ∧
    (∀ parsers : List (Parser α), 2 ≤ parsers.length →
      ∃ built first middle last, choiceOfList parsers = .ok built ∧
        parsers = first :: (middle ++ [last]) ∧ ∀ cursor,
          built.parse cursor = ((middle ++ [last]).foldl orElse first).parse cursor ∧
          built.parse cursor = ((first :: middle).foldr orElse last).parse cursor ∧
          built.parse cursor =
            (middle ++ [last]).foldl (fun outcome item => outcome.orElse fun _ => item.parse cursor)
              (first.parse cursor) ∧
          (∀ value next, built.parse cursor = .success value next ↔
            ∃ front item back, parsers = front ++ item :: back ∧ AllFail front cursor ∧
              item.parse cursor = .success value next) ∧
          ∀ reason, built.parse cursor = .failure reason ↔
            AllFail (first :: middle) cursor ∧ last.parse cursor = .failure reason) ∧
    (∀ left right : List (Parser α), 2 ≤ left.length → 2 ≤ right.length →
      ∃ leftBuilt rightBuilt built, choiceOfList left = .ok leftBuilt ∧
        choiceOfList right = .ok rightBuilt ∧ choiceOfList (left ++ right) = .ok built ∧
        ∀ cursor, built.parse cursor = (leftBuilt.orElse rightBuilt).parse cursor) ∧
    ∀ front inner back : List (Parser α), 2 ≤ inner.length → front ++ back ≠ [] →
      ∃ nested outer spliced, choiceOfList inner = .ok nested ∧
        choiceOfList (front ++ nested :: back) = .ok outer ∧
        choiceOfList (front ++ inner ++ back) = .ok spliced ∧
        ∀ cursor, outer.parse cursor = spliced.parse cursor := by
  refine ⟨fun parsers short => choiceOfList_of_short short, fun parsers long => ?_,
    fun left right leftLong rightLong => ?_, fun front inner back innerLong surrounded => ?_⟩
  · obtain ⟨first, middle, last, rfl, built⟩ := exists_choiceOfList_eq long
    refine ⟨_, first, middle, last, built, rfl, fun cursor => ⟨?_, ?_, ?_, fun value next => ?_,
      fun reason => ?_⟩⟩
    · rw [firstSuccess_eq_foldl]
    · rw [firstSuccess_eq_foldr]
    · rw [firstSuccess_eq_foldl, parse_foldl_orElse]
    · exact parse_firstSuccess_eq_success_iff
    · exact parse_firstSuccess_eq_failure_iff
  · obtain ⟨leftBuilt, rightBuilt, leftEq, rightEq, built⟩ :=
      exists_choiceOfList_append leftLong rightLong
    exact ⟨leftBuilt, rightBuilt, _, leftEq, rightEq, built, fun cursor => rfl⟩
  · obtain ⟨nested, built, innerEq, outer, spliced⟩ :=
      exists_choiceOfList_splice innerLong surrounded
    exact ⟨nested, built, built, innerEq, outer, spliced, fun cursor => rfl⟩

/-- A single text, which is refused; the second of two texts that begin alike; two choices of
letters in a row; and one in front of a third letter. -/
theorem choices_of_letters_and_texts :
    ([text "ab"].length < 2 ∧
      choiceOfList [text "ab"] = .error (.tooFewAlternatives .choice 1)) ∧
    (2 ≤ [text "ab", text "ac"].length ∧
      ∃ built, choiceOfList [text "ab", text "ac"] = .ok built ∧
        built.parse (Cursor.ofText "acd") = .success "ac" (.inside ['c', 'a'] ['d'])) ∧
    (2 ≤ [char 'a', char 'b'].length ∧ 2 ≤ [char 'b', char 'c'].length ∧
      ∃ leftBuilt rightBuilt built, choiceOfList [char 'a', char 'b'] = .ok leftBuilt ∧
        choiceOfList [char 'b', char 'c'] = .ok rightBuilt ∧
        choiceOfList [char 'a', char 'b', char 'b', char 'c'] = .ok built ∧
        ∀ cursor, built.parse cursor = (leftBuilt.orElse rightBuilt).parse cursor) ∧
    ([] ++ [char 'c'] ≠ [] ∧
      ∃ nested outer spliced, choiceOfList [char 'a', char 'b'] = .ok nested ∧
        choiceOfList [nested, char 'c'] = .ok outer ∧
        choiceOfList [char 'a', char 'b', char 'c'] = .ok spliced ∧
        ∀ cursor, outer.parse cursor = spliced.parse cursor) := by
  obtain ⟨short, answers, _, _⟩ := choice_eq_folds_and_flattens (α := String)
  obtain ⟨_, _, append, splice⟩ := choice_eq_folds_and_flattens (α := Char)
  obtain ⟨built, _, _, _, builtEq, _, answer⟩ := answers [text "ab", text "ac"] (by decide)
  obtain ⟨_, _, _, succeeds, _⟩ := answer (Cursor.ofText "acd")
  have abFails : AllFail [text "ab"] (Cursor.ofText "acd") :=
    allFail_cons_iff.mpr ⟨⟨_, rfl⟩, allFail_nil _⟩
  have read : built.parse (Cursor.ofText "acd") = .success "ac" (.inside ['c', 'a'] ['d']) :=
    (succeeds "ac" _).mpr ⟨[text "ab"], text "ac", [], rfl, abFails, rfl⟩
  exact ⟨⟨by decide, short [text "ab"] (by decide)⟩, ⟨by decide, built, builtEq, read⟩,
    ⟨by decide, by decide, append _ _ (by decide) (by decide)⟩,
    List.cons_ne_nil _ _, splice [] _ [char 'c'] (by decide) (List.cons_ne_nil _ _)⟩

end TextGrammar.Parser
