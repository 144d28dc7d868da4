import TextGrammar.Parser.Sequence
import TextGrammar.Proofs.Repetition

/-!
Contract: where the failures of a parser come from.

Owns:
- `Causes`, the failures that can come from a cursor, those of the places ahead of it among them;
- `FailsBy`, the parsers that fail by given causes only, and how the combinators keep this.

A combinator hands a failure on, drops it, or makes one of its own. The last alternative answers for
a choice, a loop drops the failure that ends it, and only the sequences look at places ahead.
-/

namespace TextGrammar

/-- The failures that can come from a cursor. What comes from a place ahead comes from the cursor as
well. -/
structure Causes where
  arises : Cursor → Failure → Prop
  carried : ∀ {cursor : Cursor} {steps : Nat} {reason : Failure}, steps ≤ cursor.unread.length →
    arises (cursor.advance steps) reason → arises cursor reason

namespace Parser

variable {α β : Type} {causes : Causes}

/-- No run fails by another cause. -/
def FailsBy (causes : Causes) (parser : Parser α) : Prop :=
  ∀ cursor reason, parser.parse cursor = .failure reason → causes.arises cursor reason

theorem NeverFails.failsBy {parser : Parser α} (neverFails : parser.NeverFails) :
    parser.FailsBy causes :=
  fun cursor reason failed => absurd failed (neverFails cursor reason)

theorem neverFails_succeed (value : α) : (succeed value).NeverFails := by
  intro cursor reason
  simp

theorem failsBy_char_of_mismatch {expected : Char}
    (mismatch : ∀ cursor : Cursor, cursor.current ≠ some expected →
      causes.arises cursor (.charMismatch expected cursor.current)) :
    (char expected).FailsBy causes := by
  intro cursor reason failed
  by_cases found : cursor.current = some expected
  · rw [parse_char_of_current found] at failed
    contradiction
  · rw [parse_char_of_ne found] at failed
    cases failed
    exact mismatch cursor found

/-- What fails some steps ahead fails by causes of the cursor. -/
theorem FailsBy.of_advances {parser : Parser α} {next : Parser β} (fails : next.FailsBy causes)
    (advances : parser.Advances) {cursor between : Cursor} {value : α} {reason : Failure}
    (read : parser.parse cursor = .success value between)
    (failed : next.parse between = .failure reason) : causes.arises cursor reason := by
  obtain ⟨steps, within, rfl⟩ := advances cursor value between read
  exact causes.carried within (fails _ reason failed)

/-! ### One parser, or two in a row -/

theorem FailsBy.map {parser : Parser α} (fails : parser.FailsBy causes) (f : α → β) :
    (parser.map f).FailsBy causes := by
  intro cursor reason failed
  rw [parse_map, Outcome.map_eq_failure_iff] at failed
  exact fails cursor reason failed

theorem FailsBy.filter {parser : Parser α} (fails : parser.FailsBy causes) (accept : α → Bool)
    {message : String} (refused : ∀ cursor, causes.arises cursor (.refused message)) :
    (parser.filter accept message).FailsBy causes := by
  intro cursor reason failed
  rw [parse_filter, Outcome.andThen_eq_failure_iff] at failed
  rcases failed with failed | ⟨value, next, _, rejected⟩
  · exact fails cursor reason failed
  · by_cases accepted : accept value = true
    · simp [accepted] at rejected
    · rw [if_neg accepted] at rejected
      cases rejected
      exact refused cursor

theorem FailsBy.bind {parser : Parser α} {next : α → Parser β} (fails : parser.FailsBy causes)
    (advances : parser.Advances) (nextFails : ∀ value, (next value).FailsBy causes) :
    (parser.bind next).FailsBy causes := by
  intro cursor reason failed
  rw [parse_bind, Outcome.andThen_eq_failure_iff] at failed
  rcases failed with failed | ⟨value, between, read, failed⟩
  · exact fails cursor reason failed
  · exact (nextFails value).of_advances advances read failed

theorem FailsBy.both {left : Parser α} {right : Parser β} (fails : left.FailsBy causes)
    (advances : left.Advances) (rightFails : right.FailsBy causes) :
    (left.both right).FailsBy causes := by
  rw [both_eq_bind]
  exact fails.bind advances fun value => rightFails.map (Prod.mk value)

theorem FailsBy.first {kept : Parser α} {dropped : Parser β} (fails : kept.FailsBy causes)
    (advances : kept.Advances) (droppedFails : dropped.FailsBy causes) :
    (Parser.first kept dropped).FailsBy causes :=
  (fails.both advances droppedFails).map Prod.fst

theorem FailsBy.second {dropped : Parser α} {kept : Parser β} (fails : dropped.FailsBy causes)
    (advances : dropped.Advances) (keptFails : kept.FailsBy causes) :
    (Parser.second dropped kept).FailsBy causes :=
  (fails.both advances keptFails).map Prod.snd

theorem FailsBy.apply {function : Parser (α → β)} {argument : Parser α}
    (fails : function.FailsBy causes) (advances : function.Advances)
    (argumentFails : argument.FailsBy causes) :
    (function.apply argument).FailsBy causes := by
  rw [apply_eq_bind]
  exact fails.bind advances argumentFails.map

/-! ### Alternatives -/

/-- The failure of the preferred parser is lost. -/
theorem FailsBy.orElse {alternative : Parser α} (fails : alternative.FailsBy causes)
    (preferred : Parser α) : (preferred.orElse alternative).FailsBy causes := by
  intro cursor reason failed
  rw [parse_orElse, Outcome.orElse_eq_failure_iff] at failed
  exact fails cursor reason failed.2

theorem FailsBy.firstSuccess {preferred : Parser α} {others : List (Parser α)}
    (fails : preferred.FailsBy causes) (othersFail : ∀ other ∈ others, other.FailsBy causes) :
    (firstSuccess preferred others).FailsBy causes := by
  induction others generalizing preferred with
  | nil => exact fails
  | cons head tail inductionHypothesis =>
      have tailFails := inductionHypothesis (othersFail head List.mem_cons_self)
        fun other member => othersFail other (List.mem_cons_of_mem head member)
      exact tailFails.orElse preferred

/-! ### Sequences and repetitions -/

theorem FailsBy.sequence {items : List (Parser α)} (fails : ∀ item ∈ items, item.FailsBy causes)
    (advances : ∀ item ∈ items, item.Advances) : (sequence items).FailsBy causes := by
  induction items with
  | nil => exact (neverFails_succeed []).failsBy
  | cons head tail inductionHypothesis =>
      have tailFails := inductionHypothesis
        (fun item member => fails item (List.mem_cons_of_mem head member))
        (fun item member => advances item (List.mem_cons_of_mem head member))
      exact (fails head List.mem_cons_self).bind (advances head List.mem_cons_self)
        fun value => tailFails.map (value :: ·)

/-- The loop drops the failure that ends it. What it fails with is its own. -/
theorem failsBy_many1 (parser : Parser α)
    (empty : ∀ cursor, causes.arises cursor .emptyRepetition) : parser.many1.FailsBy causes := by
  intro cursor reason failed
  rw [parse_many1, Outcome.andThen_eq_failure_iff] at failed
  rcases failed with failed | ⟨values, next, _, missing⟩
  · exact absurd failed (neverFails_many parser cursor reason)
  · cases values with
    | cons => simp at missing
    | nil =>
        cases missing
        exact empty cursor

theorem FailsBy.element {parser : Parser α} (fails : parser.FailsBy causes)
    (separator : Parser β) : (element parser separator).FailsBy causes :=
  fun cursor reason failed => fails cursor reason (parse_element_eq_failure_iff.mp failed)

/-- The failure of a separator ends the list, that of an element after one is the list's own. -/
theorem FailsBy.moreWithin {parser : Parser α} {separator : Parser β}
    (fails : parser.FailsBy causes) (advances : parser.Advances)
    (separatorAdvances : separator.Advances) (rounds : Nat) :
    FailsBy causes ⟨parser.moreWithin separator rounds⟩ := by
  induction rounds with
  | zero =>
      intro cursor reason failed
      contradiction
  | succ rounds inductionHypothesis =>
      -- What follows the separator is an element and then the list with one round less.
      have round := fails.bind advances fun value => inductionHypothesis.map (value :: ·)
      intro cursor reason failed
      change parser.moreWithin separator (rounds + 1) cursor = _ at failed
      rw [moreWithin_succ] at failed
      cases separated : separator.parse cursor with
      | failure other => simp [separated] at failed
      | endless => simp [separated] at failed
      | success mark after =>
          exact round.of_advances separatorAdvances separated (by simpa [separated] using failed)

theorem FailsBy.separatedList {parser : Parser α} {separator : Parser β}
    (fails : parser.FailsBy causes) (advances : parser.Advances)
    (separatorAdvances : separator.Advances) :
    (separatedList parser separator).FailsBy causes := by
  have moreFails : FailsBy causes ⟨fun next => parser.moreWithin separator next.horizon next⟩ :=
    fun next => fails.moreWithin advances separatorAdvances next.horizon next
  rw [separatedList_eq_bind]
  exact fails.bind advances fun value => moreFails.map (value :: ·)

end Parser

end TextGrammar
