import TextGrammar.Failure
import TextGrammar.Text.Quoted

/-!
Contract: why a grammar cannot be put together.

Owns `ConstructionError` and its message, and `singleChar`, which takes one character from a text or
refuses it. A construction error comes from the fixed arguments of a combinator, before any text is
read; running a parser never raises one.
-/

namespace TextGrammar

/-- Why a grammar cannot be put together. -/
inductive ConstructionError where
  /-- A text that should name one character holds none, or more. -/
  | notSingleChar (text : String)
  /-- A choice needs two alternatives or more. -/
  | tooFewAlternatives (combinator : Combinator) (count : Nat)
deriving DecidableEq, Repr

/-- The message of a construction error. -/
def ConstructionError.message : ConstructionError → String
  | .notSingleChar text => "length of string to match must be 1, got " ++ Quoted.quote text
  | .tooFewAlternatives combinator count =>
      combinator.name ++ " needs at least two alternatives, got " ++ toString count

/-- The one character of a text. -/
def singleChar (text : String) : Except ConstructionError Char :=
  match text.toList with
  | [only] => .ok only
  | _ => .error (.notSingleChar text)

theorem singleChar_eq_error_iff {text : String} {error : ConstructionError} :
    singleChar text = .error error ↔ text.length ≠ 1 ∧ error = .notSingleChar text := by
  rw [singleChar, ← String.length_toList]
  match text.toList with
  | [] => simp [eq_comm]
  | [_] => simp
  | _ :: _ :: _ => simp [eq_comm]

/-- The message of a refusal shows a text of plain characters as it was given. -/
theorem message_of_singleChar_eq_error {text : String} {error : ConstructionError}
    (plain : ∀ character ∈ text.toList, Quoted.Plain character)
    (refused : singleChar text = .error error) :
    error.message = "length of string to match must be 1, got " ++ ("\"" ++ text ++ "\"") := by
  obtain ⟨_, rfl⟩ := singleChar_eq_error_iff.mp refused
  rw [← Quoted.quote_of_plain plain]
  rfl

end TextGrammar
