import TextGrammar.Proofs.Progress

/-!
Contract: the equations between combinators with which a grammar is rewritten.

Owns:
- `map`, `both` and `lift2` as continuations, and the laws of `map` and of nested pairs that follow
  from the laws of `bind`;
- what a parser that reads nothing is as the preferred one of two, and `optional` as two parsers;
- two filters in a row as one.

A parser is what it answers at every cursor, so that two sides of an equation have the same value,
the same place after it and the same failure, and both return or neither does. What reads in a row
is a continuation, and its laws are those of `bind`. What answers a failure, or makes one, is
decided by the outcome of the parser that it is given.
-/

namespace TextGrammar

section Refusals

variable {α : Type} {accept : α → Bool} {refusal : α → String} {outcome : Outcome α}

/-- Keep a value that is accepted, and refuse another one with the message that is meant for it. -/
def Outcome.keep (accept : α → Bool) (refusal : α → String)
    (outcome : Outcome α) : Outcome α :=
  outcome.andThen fun value next =>
    if accept value then .success value next else .failure (.refused (refusal value))

theorem Outcome.keep_eq_success_iff {value : α} {next : Cursor} :
    outcome.keep accept refusal = .success value next ↔
      outcome = .success value next ∧ accept value = true := by
  cases outcome with
  | success found place =>
      rw [Outcome.keep, Outcome.success_andThen]
      constructor
      · intro kept
        split at kept
        next accepted =>
          cases kept
          exact ⟨rfl, accepted⟩
        next => cases kept
      · rintro ⟨kept, accepted⟩
        cases kept
        rw [if_pos accepted]
  | failure reason => simp [Outcome.keep]
  | endless => simp [Outcome.keep]

theorem Outcome.keep_eq_failure_iff {reason : Failure} :
    outcome.keep accept refusal = .failure reason ↔
      outcome = .failure reason ∨ ∃ value next, outcome = .success value next ∧
        accept value = false ∧ reason = .refused (refusal value) := by
  rw [Outcome.keep, Outcome.andThen_eq_failure_iff]
  refine or_congr_right (exists_congr fun value => exists_congr fun next =>
    and_congr_right fun _ => ?_)
  cases accept value with
  | true => simp
  | false => simp [eq_comm]

theorem Outcome.keep_eq_endless_iff :
    outcome.keep accept refusal = .endless ↔ outcome = .endless := by
  cases outcome with
  | success value next => cases accepted : accept value <;> simp [Outcome.keep, accepted]
  | failure reason => simp [Outcome.keep]
  | endless => simp [Outcome.keep]

end Refusals

namespace Parser

variable {α β γ : Type}

/-! ### One after the other -/

/-- To change a value is to go on with the changed one. -/
theorem map_eq_bind (parser : Parser α) (f : α → β) :
    parser.map f = parser.bind fun value => succeed (f value) := by
  apply Parser.ext
  funext cursor
  rw [parse_map, Outcome.map_eq_andThen]
  rfl

theorem map_id (parser : Parser α) : parser.map id = parser := by
  rw [map_eq_bind]
  exact bind_succeed parser

theorem bind_map (parser : Parser α) (f : α → β) (next : β → Parser γ) :
    (parser.map f).bind next = parser.bind fun value => next (f value) := by
  rw [map_eq_bind, bind_assoc]
  rfl

theorem map_bind (parser : Parser α) (next : α → Parser β) (g : β → γ) :
    (parser.bind next).map g = parser.bind fun value => (next value).map g := by
  rw [map_eq_bind, bind_assoc]
  simp only [map_eq_bind]

theorem map_map (parser : Parser α) (f : α → β) (g : β → γ) :
    (parser.map f).map g = parser.map fun value => g (f value) := by
  rw [map_eq_bind, bind_map, ← map_eq_bind]

/-- Two values that are combined are read by two continuations. -/
theorem lift2_eq_bind (f : α → β → γ) (left : Parser α) (right : Parser β) :
    lift2 f left right =
      left.bind fun leftValue => right.bind fun rightValue => succeed (f leftValue rightValue) := by
  calc lift2 f left right
      = ((succeed f).bind left.map).bind right.map := by rw [lift2, apply_eq_bind, apply_eq_bind]
    _ = left.bind fun leftValue => right.map (f leftValue) := bind_map left f right.map
    _ = _ := by simp only [map_eq_bind]

/-- Three values are read in the same order however they are put into pairs. -/
theorem both_both (first : Parser α) (second : Parser β) (third : Parser γ) :
    (first.both second).both third =
      (first.both (second.both third)).map fun read => ((read.1, read.2.1), read.2.2) := by
  simp only [both_eq_bind, bind_assoc, bind_map, map_bind, map_map]

/-! ### One or the other -/

theorem fail_orElse (message : String) (alternative : Parser α) :
    (fail message).orElse alternative = alternative := rfl

theorem succeed_orElse (value : α) (alternative : Parser α) :
    (succeed value).orElse alternative = succeed value := rfl

theorem optional_eq_orElse (parser : Parser α) :
    parser.optional = (parser.map some).orElse (succeed none) := rfl

/-! ### Values that are refused -/

theorem parse_filter_eq_keep (parser : Parser α) (accept : α → Bool) (message : String)
    (cursor : Cursor) :
    (parser.filter accept message).parse cursor =
      (parser.parse cursor).keep accept fun _ => message := rfl

/-- A value that both predicates accept is kept. Another one is refused by the first of them that
does not accept it. -/
theorem parse_filter_filter_eq_keep (parser : Parser α) (accept also : α → Bool)
    (first second : String) (cursor : Cursor) :
    ((parser.filter accept first).filter also second).parse cursor =
      (parser.parse cursor).keep (fun value => accept value && also value)
        fun value => if accept value then second else first := by
  rw [parse_filter, parse_filter, Outcome.andThen_assoc, Outcome.keep]
  congr 1
  funext value next
  cases accept value <;> rfl

/-- With one message, two filters are a filter. -/
theorem filter_filter (parser : Parser α) (accept also : α → Bool) (message : String) :
    (parser.filter accept message).filter also message =
      parser.filter (fun value => accept value && also value) message := by
  apply Parser.ext
  funext cursor
  rw [parse_filter_filter_eq_keep, parse_filter_eq_keep]
  simp only [ite_self]

/-- The laws of the combinators. `succeed` and `bind` are a monad, and `map`, `apply`, `lift2` and
nested pairs are what a monad makes of them. `orElse` is associative, a parser that only fails is
nothing in front of another, and one that only succeeds leaves nothing to another. Two filters keep
what both accept, as one filter does that asks for both, and only the message of a refusal tells
them apart: of two filters it is that of the first to refuse the value. Both sides of an equation
answer alike at every cursor, with the same failure. -/
theorem combinators_obey_their_laws :
    (∀ parser : Parser α, parser.map (fun value => value) = parser) ∧
    (∀ (parser : Parser α) (f : α → β) (g : β → γ),
      (parser.map f).map g = parser.map fun value => g (f value)) ∧
    (∀ (value : α) (next : α → Parser β), (succeed value).bind next = next value) ∧
    (∀ parser : Parser α, parser.bind succeed = parser) ∧
    (∀ (parser : Parser α) (next : α → Parser β) (last : β → Parser γ),
      (parser.bind next).bind last = parser.bind fun value => (next value).bind last) ∧
    (∀ (function : Parser (α → β)) (argument : Parser α),
      function.apply argument = function.bind fun f => argument.map f) ∧
    (∀ (f : α → β → γ) (left : Parser α) (right : Parser β),
      lift2 f left right = left.bind fun leftValue => right.bind fun rightValue =>
        succeed (f leftValue rightValue)) ∧
    (∀ (first : Parser α) (second : Parser β) (third : Parser γ),
      (first.both second).both third =
        (first.both (second.both third)).map fun read => ((read.1, read.2.1), read.2.2)) ∧
    (∀ preferred second third : Parser α,
      (preferred.orElse second).orElse third = preferred.orElse (second.orElse third)) ∧
    (∀ (message : String) (parser : Parser α), (fail message).orElse parser = parser) ∧
    (∀ (value : α) (parser : Parser α), (succeed value).orElse parser = succeed value) ∧
    (∀ parser : Parser α, parser.optional = (parser.map some).orElse (succeed none)) ∧
    (∀ (parser : Parser α) (accept also : α → Bool) (message : String),
      (parser.filter accept message).filter also message =
        parser.filter (fun value => accept value && also value) message) ∧
    ∀ (parser : Parser α) (accept also : α → Bool) (first second message : String)
      (cursor : Cursor),
      let twice := (parser.filter accept first).filter also second
      let once := parser.filter (fun value => accept value && also value) message
      (∀ value next, twice.parse cursor = .success value next ↔
        once.parse cursor = .success value next) ∧
      (twice.parse cursor = .endless ↔ once.parse cursor = .endless) ∧
      (∀ reason, once.parse cursor = .failure reason ↔ parser.parse cursor = .failure reason ∨
        ∃ value next, parser.parse cursor = .success value next ∧
          (accept value && also value) = false ∧ reason = .refused message) ∧
      ∀ reason, twice.parse cursor = .failure reason ↔ parser.parse cursor = .failure reason ∨
        ∃ value next, parser.parse cursor = .success value next ∧
          (accept value && also value) = false ∧
          reason = .refused (if accept value then second else first) := by
  refine ⟨map_id, map_map, succeed_bind, bind_succeed, bind_assoc, apply_eq_bind, lift2_eq_bind,
    both_both, orElse_assoc, fail_orElse, succeed_orElse, optional_eq_orElse, filter_filter, ?_⟩
  intro parser accept also first second message cursor twice once
  have twiceEq : twice.parse cursor = _ :=
    parse_filter_filter_eq_keep parser accept also first second cursor
  have onceEq : once.parse cursor = _ := parse_filter_eq_keep parser _ message cursor
  rw [twiceEq, onceEq]
  refine ⟨fun value next => ?_, ?_, fun reason => Outcome.keep_eq_failure_iff,
    fun reason => Outcome.keep_eq_failure_iff⟩
  · rw [Outcome.keep_eq_success_iff, Outcome.keep_eq_success_iff]
  · rw [Outcome.keep_eq_endless_iff, Outcome.keep_eq_endless_iff]

end Parser

end TextGrammar
