import TextGrammar.Cursor
import TextGrammar.Failure

/-!
Contract: what running a parser at a cursor comes to.

Owns:
- `Outcome`, with a success, a failure and the run that never returns kept apart;
- its sequencing `andThen`, recovery `orElse` and `map`, with their equations;
- `Outcome.Returns`, that the run is not endless, which these three keep;
- `Outcome.answer`, which forgets the cursor.

Parsers have no memory. A loop whose step leaves the cursor where it was would take the same step
again and again, and so would a rule that calls itself without moving. `endless` stands for such a
run, and whatever waits for an endless run is endless too.
-/

namespace TextGrammar

/-- What running a parser at a cursor comes to. -/
inductive Outcome (α : Type) where
  /-- The value that was read, and the cursor after it. -/
  | success (value : α) (cursor : Cursor)
  /-- The parser did not match. -/
  | failure (reason : Failure)
  /-- The run does not return. -/
  | endless
deriving DecidableEq, Repr

namespace Outcome

variable {α β γ : Type}

/-- Go on from a success with its value and cursor. -/
def andThen (outcome : Outcome α) (next : α → Cursor → Outcome β) : Outcome β :=
  match outcome with
  | .success value cursor => next value cursor
  | .failure reason => .failure reason
  | .endless => .endless

/-- Go on from a failure with another outcome. -/
def orElse (outcome : Outcome α) (alternative : Unit → Outcome α) : Outcome α :=
  match outcome with
  | .success value cursor => .success value cursor
  | .failure _ => alternative ()
  | .endless => .endless

/-- Change the value of a success. -/
def map (f : α → β) : Outcome α → Outcome β
  | .success value cursor => .success (f value) cursor
  | .failure reason => .failure reason
  | .endless => .endless

/-- The value or the failure, with the cursor forgotten; none of a run that does not return. -/
def answer : Outcome α → Option (Except Failure α)
  | .success value _ => some (.ok value)
  | .failure reason => some (.error reason)
  | .endless => none

/-- The run returns, with a value or with a failure. -/
def Returns (outcome : Outcome α) : Prop :=
  outcome ≠ .endless

@[simp] theorem success_andThen (value : α) (cursor : Cursor)
    (next : α → Cursor → Outcome β) :
    (success value cursor).andThen next = next value cursor := rfl

@[simp] theorem failure_andThen (reason : Failure) (next : α → Cursor → Outcome β) :
    (Outcome.failure reason : Outcome α).andThen next = .failure reason := rfl

@[simp] theorem endless_andThen (next : α → Cursor → Outcome β) :
    (endless : Outcome α).andThen next = .endless := rfl

@[simp] theorem success_orElse (value : α) (cursor : Cursor)
    (alternative : Unit → Outcome α) :
    (success value cursor).orElse alternative = success value cursor := rfl

@[simp] theorem failure_orElse (reason : Failure) (alternative : Unit → Outcome α) :
    (Outcome.failure reason : Outcome α).orElse alternative = alternative () := rfl

@[simp] theorem endless_orElse (alternative : Unit → Outcome α) :
    (endless : Outcome α).orElse alternative = .endless := rfl

@[simp] theorem map_success (f : α → β) (value : α) (cursor : Cursor) :
    (success value cursor).map f = success (f value) cursor := rfl

@[simp] theorem map_failure (f : α → β) (reason : Failure) :
    (Outcome.failure reason : Outcome α).map f = .failure reason := rfl

@[simp] theorem map_endless (f : α → β) : (endless : Outcome α).map f = .endless := rfl

theorem map_eq_andThen (f : α → β) (outcome : Outcome α) :
    outcome.map f = outcome.andThen fun value cursor => success (f value) cursor := by
  cases outcome <;> rfl

theorem andThen_assoc (outcome : Outcome α) (next : α → Cursor → Outcome β)
    (last : β → Cursor → Outcome γ) :
    (outcome.andThen next).andThen last =
      outcome.andThen fun value cursor => (next value cursor).andThen last := by
  cases outcome <;> rfl

theorem orElse_assoc (outcome : Outcome α) (second third : Unit → Outcome α) :
    (outcome.orElse second).orElse third =
      outcome.orElse fun _ => (second ()).orElse third := by
  cases outcome <;> rfl

theorem andThen_eq_success_iff {outcome : Outcome α} {next : α → Cursor → Outcome β}
    {value : β} {cursor : Cursor} :
    outcome.andThen next = success value cursor ↔
      ∃ first between, outcome = success first between ∧
        next first between = success value cursor := by
  cases outcome <;> simp [and_assoc]

theorem andThen_eq_failure_iff {outcome : Outcome α} {next : α → Cursor → Outcome β}
    {reason : Failure} :
    outcome.andThen next = .failure reason ↔
      outcome = .failure reason ∨
        ∃ first between, outcome = success first between ∧
          next first between = .failure reason := by
  cases outcome <;> simp [and_assoc]

theorem orElse_eq_success_iff {outcome : Outcome α} {alternative : Unit → Outcome α} {value : α}
    {cursor : Cursor} :
    outcome.orElse alternative = success value cursor ↔
      outcome = success value cursor ∨
        (∃ reason, outcome = .failure reason) ∧ alternative () = success value cursor := by
  cases outcome <;> simp

theorem orElse_eq_failure_iff {outcome : Outcome α} {alternative : Unit → Outcome α}
    {reason : Failure} :
    outcome.orElse alternative = .failure reason ↔
      (∃ first, outcome = .failure first) ∧ alternative () = .failure reason := by
  cases outcome <;> simp

theorem map_eq_success_iff {f : α → β} {outcome : Outcome α} {value : β} {cursor : Cursor} :
    outcome.map f = success value cursor ↔
      ∃ first, outcome = success first cursor ∧ f first = value := by
  cases outcome with
  | success first place =>
      simp only [map_success, success.injEq]
      constructor
      · rintro ⟨valueEq, placeEq⟩
        exact ⟨first, ⟨rfl, placeEq⟩, valueEq⟩
      · rintro ⟨_, ⟨rfl, placeEq⟩, valueEq⟩
        exact ⟨valueEq, placeEq⟩
  | failure => simp
  | endless => simp

theorem map_eq_failure_iff {f : α → β} {outcome : Outcome α} {reason : Failure} :
    outcome.map f = .failure reason ↔ outcome = .failure reason := by
  cases outcome <;> simp

/-! ### Runs that return -/

@[simp] theorem returns_success (value : α) (cursor : Cursor) :
    (success value cursor).Returns := by
  simp [Returns]

@[simp] theorem returns_failure (reason : Failure) :
    (Outcome.failure reason : Outcome α).Returns := by
  simp [Returns]

theorem not_returns_iff {outcome : Outcome α} : ¬ outcome.Returns ↔ outcome = .endless := by
  simp [Returns]

/-- Who returns without a success fails. -/
theorem Returns.exists_failure {outcome : Outcome α} (returns : outcome.Returns)
    (noSuccess : ∀ value cursor, outcome ≠ .success value cursor) :
    ∃ reason, outcome = .failure reason := by
  cases outcome with
  | success value cursor => exact absurd rfl (noSuccess value cursor)
  | failure reason => exact ⟨reason, rfl⟩
  | endless => exact absurd rfl returns

theorem Returns.andThen {outcome : Outcome α} (returns : outcome.Returns)
    {next : α → Cursor → Outcome β} (nextReturns : ∀ value cursor, (next value cursor).Returns) :
    (outcome.andThen next).Returns := by
  cases outcome with
  | success value cursor => exact nextReturns value cursor
  | failure reason => exact returns_failure reason
  | endless => exact absurd rfl returns

theorem Returns.map {outcome : Outcome α} (returns : outcome.Returns) (f : α → β) :
    (outcome.map f).Returns := by
  rw [map_eq_andThen]
  exact returns.andThen fun value cursor => returns_success (f value) cursor

theorem Returns.orElse {outcome : Outcome α} (returns : outcome.Returns)
    {alternative : Unit → Outcome α} (alternativeReturns : (alternative ()).Returns) :
    (outcome.orElse alternative).Returns := by
  cases outcome with
  | success value cursor => exact returns_success value cursor
  | failure reason => exact alternativeReturns
  | endless => exact absurd rfl returns

end Outcome

end TextGrammar
