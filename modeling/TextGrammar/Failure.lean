/-!
Contract: why a parser did not match.

Owns:
- the names of the combinators that raise failures or refuse their arguments;
- `Failure`, its kind, message and origin, and its one-line text.

A failure holds no value and no place: whoever recovers from one still has the cursor it began at.
-/

namespace TextGrammar

/-- The combinators that failures and construction errors name as their origin. -/
inductive Combinator where
  | matchChar
  | anyChar
  | anyOf
  | choice
  | many1
  | filter
  | fail
deriving DecidableEq, Repr

namespace Combinator

/-- All combinators that can be an origin. -/
def all : List Combinator :=
  [.matchChar, .anyChar, .anyOf, .choice, .many1, .filter, .fail]

/-- The name of a combinator in messages. -/
def name : Combinator → String
  | .matchChar => "match_char"
  | .anyChar => "any_char"
  | .anyOf => "any_of"
  | .choice => "choice"
  | .many1 => "many1"
  | .filter => "filter"
  | .fail => "fail"

end Combinator

/-- The kinds of failure: another character or the end of the text was found, a repetition matched
nothing, or a value that was read has been refused. -/
inductive FailureKind where
  | matchMismatch
  | emptyRepetition
  | rejected
deriving DecidableEq, Repr

/-- Why a parser did not match. -/
structure Failure where
  kind : FailureKind
  message : String
  origin : Combinator
deriving DecidableEq, Repr

namespace Failure

/-- The text of a character that was found; nothing at the end of the text. -/
def foundText : Option Char → String
  | none => ""
  | some found => String.singleton found

/-- What was expected is not what stands under the cursor. -/
def mismatch (expected : String) (found : Option Char) (origin : Combinator) : Failure where
  kind := .matchMismatch
  message := "expected '" ++ expected ++ "' got '" ++ foundText found ++ "'"
  origin := origin

/-- The character `expected` is not the one found. -/
def charMismatch (expected : Char) (found : Option Char) : Failure :=
  mismatch (String.singleton expected) found .matchChar

/-- Any character would do, but none is left. -/
def noCharacter : Failure :=
  mismatch "any character" none .anyChar

/-- A repetition that needs a match has none. -/
def emptyRepetition : Failure where
  kind := .emptyRepetition
  message := "needs at least one match"
  origin := .many1

/-- A predicate refused the value that was read. -/
def refused (message : String) : Failure where
  kind := .rejected
  message := message
  origin := .filter

/-- A parser that always fails was reached. -/
def failed (message : String) : Failure where
  kind := .rejected
  message := message
  origin := .fail

/-- The failure in one line: its origin, then its message. -/
def text (failure : Failure) : String :=
  failure.origin.name ++ ": " ++ failure.message

end Failure

end TextGrammar
