import TextGrammar.Parser.Alternation
import TextGrammar.Parser.Pairing
import TextGrammar.Parser.Repetition

/-!
Contract: the small lexemes of text grammars.

Owns:
- `digit`, `letter` and their runs `digits`, `letters`; digits and letters are those of ASCII;
- `natural`, a decimal literal of a 64-bit word, with the value of a digit string;
- `blanks`, a run of spaces and tabs, and `padded`, which skips blanks on both sides of a parser.

A line feed is no blank, so grammars in which lines matter can read it themselves.
-/

namespace TextGrammar

/-- The number that decimal digits write, the most significant first. -/
def decimalValue (digits : List Char) : Nat :=
  digits.foldl (fun value digit => 10 * value + (digit.toNat - '0'.toNat)) 0

namespace Parser

variable {α : Type}

/-- Read a decimal digit. -/
def digit : Parser Char :=
  anyChar.filter Char.isDigit "expected digit"

/-- Read a letter. -/
def letter : Parser Char :=
  anyChar.filter Char.isAlpha "expected letter"

/-- Read one digit or more, as written. -/
def digits : Parser String :=
  digit.many1.map String.ofList

/-- Read one letter or more. -/
def letters : Parser String :=
  letter.many1.map String.ofList

/-- The number of a literal, if it fits in a word. -/
def wordOfLiteral (literal : String) : Parser UInt64 :=
  let value := decimalValue literal.toList
  if value < UInt64.size then
    succeed (UInt64.ofNat value)
  else
    fail ("number out of range: " ++ literal)

/-- Read a decimal literal, leading zeros allowed. One that does not fit in a word is refused. -/
def natural : Parser UInt64 :=
  digits.bind wordOfLiteral

/-- Read a space or a tab. -/
def blank : Parser Char :=
  (char ' ').orElse (char '\t')

/-- Skip spaces and tabs. -/
def blanks : Parser Unit :=
  blank.many.map fun _ => ()

/-- Skip blanks before and after. -/
def padded (parser : Parser α) : Parser α :=
  between blanks parser blanks

end Parser

end TextGrammar
