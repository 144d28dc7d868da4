import TextGrammar.Alternatives
import TextGrammar.Parser.Character

/-!
Contract: ordered choice. Every alternative begins at the cursor that the choice was given, however
far the one before it came; the first success wins, and if all fail the last failure is reported.

Owns:
- `orElse` for two parsers, `choice` for two or more, `anyOf` for characters;
- `choiceOfList` and `anyOfList`, which refuse a list with fewer than two alternatives;
- `optional`, which turns a failure into the absence of a value.
-/

namespace TextGrammar

namespace Parser

variable {α : Type}

/-- Run the first parser and, if it fails, the second one from the same cursor. -/
def orElse (preferred alternative : Parser α) : Parser α where
  parse cursor := (preferred.parse cursor).orElse fun _ => alternative.parse cursor

/-- Try the parsers in order, `preferred` before those of the list. -/
def firstSuccess (preferred : Parser α) : List (Parser α) → Parser α
  | [] => preferred
  | following :: others => preferred.orElse (firstSuccess following others)

/-- Try two or more parsers in order. -/
def choice (alternatives : Alternatives (Parser α)) : Parser α :=
  firstSuccess alternatives.first (alternatives.second :: alternatives.others)

/-- Try the parsers of a list in order; there must be two or more. -/
def choiceOfList (parsers : List (Parser α)) : Except ConstructionError (Parser α) :=
  (Alternatives.ofList .choice parsers).map choice

/-- Read one of two or more characters, trying them in order. -/
def anyOf (characters : Alternatives Char) : Parser Char :=
  choice (characters.map char)

/-- Read one of the characters of a list; there must be two or more. -/
def anyOfList (characters : List Char) : Except ConstructionError (Parser Char) :=
  (Alternatives.ofList .anyOf characters).map anyOf

/-- Read a value if there is one; if not, stay at the same cursor. -/
def optional (parser : Parser α) : Parser (Option α) where
  parse cursor := ((parser.parse cursor).map some).orElse fun _ => .success none cursor

@[simp] theorem parse_orElse (preferred alternative : Parser α) (cursor : Cursor) :
    (preferred.orElse alternative).parse cursor =
      (preferred.parse cursor).orElse fun _ => alternative.parse cursor := rfl

theorem orElse_assoc (preferred second third : Parser α) :
    (preferred.orElse second).orElse third = preferred.orElse (second.orElse third) := by
  apply Parser.ext
  funext cursor
  simp only [parse_orElse, Outcome.orElse_assoc]

theorem firstSuccess_nil (preferred : Parser α) : firstSuccess preferred [] = preferred := rfl

theorem firstSuccess_cons (preferred following : Parser α) (others : List (Parser α)) :
    firstSuccess preferred (following :: others) =
      preferred.orElse (firstSuccess following others) := rfl

theorem parse_optional (parser : Parser α) (cursor : Cursor) :
    parser.optional.parse cursor =
      ((parser.parse cursor).map some).orElse fun _ => .success none cursor := rfl

end Parser

end TextGrammar
