import TextGrammar.Lexical
import TextGrammar.Parser.Sequence

/-!
Contract: fields that begin with their length.

Owns the reader and the writer of a field: one digit, then as many characters as it says. The
length counts characters, so a field holds nine of them at most.
-/

namespace TextGrammar.Field

/-- The value of a digit. -/
def digitValue (digit : Char) : Nat :=
  digit.toNat - '0'.toNat

/-- Read one field. -/
def parser : Parser String := do
  let length ← Parser.digit.map digitValue
  let characters ← Parser.sequence (List.replicate length Parser.anyChar)
  return String.ofList characters

/-- Write one field. -/
def encode (content : String) : List Char :=
  (toString content.length).toList ++ content.toList

end TextGrammar.Field
