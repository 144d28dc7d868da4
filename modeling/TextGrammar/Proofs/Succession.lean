import TextGrammar.Parser.Sequence
import TextGrammar.Proofs.Laws

/-!
Contract: a list of parsers in a row, as folds from its two ends and as a course of its members.

Owns:
- that a sequence is the right fold which puts each value in front of those behind it, and the left
  fold which puts it behind those in front of it;
- that a sequence may be cut anywhere, its parts being read one after the other;
- `Succession`, the courses of a sequence in which every member succeeds, and where it fails: at the
  first member that fails where those in front of it have come.

The left fold carries the values read so far and the right fold does not. They meet once that list
is taken out of the left one, where it stands in front of what the members still to come read.
-/

namespace TextGrammar.Parser

variable {α : Type}

/-! ### Folds -/

theorem sequence_cons (head : Parser α) (tail : List (Parser α)) :
    sequence (head :: tail) = lift2 List.cons head (sequence tail) := by
  apply Parser.ext
  funext cursor
  rw [parse_sequence_cons, parse_lift2]

theorem sequence_eq_foldr (items : List (Parser α)) :
    sequence items = items.foldr (lift2 List.cons) (succeed []) := by
  induction items with
  | nil => rfl
  | cons head tail inductionHypothesis =>
      rw [List.foldr_cons, sequence_cons, inductionHypothesis]

theorem sequence_append (front back : List (Parser α)) :
    sequence (front ++ back) = lift2 List.append (sequence front) (sequence back) := by
  apply Parser.ext
  funext cursor
  rw [parse_sequence_append, parse_lift2]
  rfl

/-- Read one more value and put it behind those that were read. -/
def collect (read : List α) (item : Parser α) : Parser (List α) :=
  item.map fun value => read ++ [value]

/-- What was read before a loop over a sequence stands in front of what the sequence reads. -/
theorem foldlM_collect (items : List (Parser α)) (read : List α) :
    items.foldlM collect read = (sequence items).map (read ++ ·) := by
  apply Parser.ext
  funext cursor
  induction items generalizing read cursor with
  | nil =>
      rw [List.foldlM_nil, parse_map, parse_sequence_nil, Outcome.map_success, List.append_nil]
      rfl
  | cons head tail inductionHypothesis =>
      simp only [List.foldlM_cons, monadBind_eq_bind, parse_bind, collect, inductionHypothesis,
        parse_map, parse_sequence_cons, Outcome.map_eq_andThen, Outcome.andThen_assoc,
        Outcome.success_andThen, List.append_assoc, List.singleton_append]

theorem sequence_eq_foldlM (items : List (Parser α)) :
    sequence items = items.foldlM collect [] := by
  rw [foldlM_collect]
  exact (map_id (sequence items)).symm

/-! ### Courses -/

/-- Every parser succeeds where the one in front of it has stopped, with one value each. -/
inductive Succession : List (Parser α) → Cursor → List α → Cursor → Prop where
  | done (cursor : Cursor) : Succession [] cursor [] cursor
  | step {head : Parser α} {tail : List (Parser α)} {cursor between last : Cursor} {value : α}
      {values : List α} (read : head.parse cursor = .success value between)
      (others : Succession tail between values last) :
      Succession (head :: tail) cursor (value :: values) last

section Courses

variable {items : List (Parser α)} {cursor last : Cursor} {values : List α}

theorem Succession.parse_sequence (succession : Succession items cursor values last) :
    (sequence items).parse cursor = .success values last := by
  induction succession with
  | done cursor => rfl
  | step read others inductionHypothesis =>
      rw [parse_sequence_cons, read, Outcome.success_andThen, inductionHypothesis]
      rfl

theorem parse_sequence_eq_success_iff :
    (sequence items).parse cursor = .success values last ↔
      Succession items cursor values last := by
  refine ⟨fun read => ?_, Succession.parse_sequence⟩
  induction items generalizing cursor values with
  | nil =>
      cases read
      exact .done _
  | cons head tail inductionHypothesis =>
      rw [parse_sequence_cons, Outcome.andThen_eq_success_iff] at read
      obtain ⟨value, between, readHead, readTail⟩ := read
      obtain ⟨others, readOthers, rfl⟩ := Outcome.map_eq_success_iff.mp readTail
      exact .step readHead (inductionHypothesis readOthers)

/-- There is a first member that fails, and it fails where those in front of it have come. -/
theorem exists_failure_of_parse_sequence {reason : Failure}
    (failed : (sequence items).parse cursor = .failure reason) :
    ∃ front item back values between, items = front ++ item :: back ∧
      Succession front cursor values between ∧ item.parse between = .failure reason := by
  induction items generalizing cursor with
  | nil => contradiction
  | cons head tail inductionHypothesis =>
      rw [parse_sequence_cons, Outcome.andThen_eq_failure_iff] at failed
      rcases failed with failed | ⟨value, between, readHead, tailFailed⟩
      · exact ⟨[], head, tail, [], cursor, rfl, .done cursor, failed⟩
      · obtain ⟨front, item, back, values, place, rfl, succession, itemFailed⟩ :=
          inductionHypothesis (Outcome.map_eq_failure_iff.mp tailFailed)
        exact ⟨head :: front, item, back, value :: values, place, rfl,
          .step readHead succession, itemFailed⟩

theorem parse_sequence_eq_failure_iff {reason : Failure} :
    (sequence items).parse cursor = .failure reason ↔
      ∃ front item back values between, items = front ++ item :: back ∧
        Succession front cursor values between ∧ item.parse between = .failure reason := by
  refine ⟨exists_failure_of_parse_sequence, fun found => ?_⟩
  obtain ⟨front, item, back, values, between, rfl, succession, itemFailed⟩ := found
  rw [parse_sequence_append, succession.parse_sequence, Outcome.success_andThen,
    parse_sequence_cons, itemFailed]
  rfl

end Courses

/-- A sequence answers at every cursor what the right fold and the left fold of its members answer,
and what its parts answer in a row wherever it is cut. It succeeds with one value for each member,
in order, if each succeeds where the one in front of it has stopped, and if not, it fails as the
first member does that fails there. -/
theorem sequence_eq_folds_and_parts_at_every_cut (cursor : Cursor) :
    (∀ items : List (Parser α),
      (sequence items).parse cursor =
        (items.foldr (lift2 fun value values => value :: values) (succeed [])).parse cursor ∧
      (sequence items).parse cursor = (items.foldlM collect []).parse cursor) ∧
    (∀ front back : List (Parser α), (sequence (front ++ back)).parse cursor =
      (lift2 (fun values others => values ++ others) (sequence front) (sequence back)).parse
        cursor) ∧
    ∀ items : List (Parser α),
      (∀ values last, (sequence items).parse cursor = .success values last ↔
        Succession items cursor values last ∧ values.length = items.length) ∧
      ∀ reason, (sequence items).parse cursor = .failure reason ↔
        ∃ front item back values between, items = front ++ item :: back ∧
          Succession front cursor values between ∧ item.parse between = .failure reason := by
  refine ⟨fun items => ⟨?_, ?_⟩, fun front back => ?_, fun items => ⟨fun values last => ?_,
    fun reason => parse_sequence_eq_failure_iff⟩⟩
  · exact congrArg (·.parse cursor) (sequence_eq_foldr items)
  · exact congrArg (·.parse cursor) (sequence_eq_foldlM items)
  · exact congrArg (·.parse cursor) (sequence_append front back)
  · constructor
    · intro read
      exact ⟨parse_sequence_eq_success_iff.mp read, length_of_parse_sequence read⟩
    · rintro ⟨succession, _⟩
      exact succession.parse_sequence

end TextGrammar.Parser
