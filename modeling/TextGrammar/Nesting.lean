import TextGrammar.Parser.Alternation
import TextGrammar.Parser.Pairing
import TextGrammar.Parser.Recursion

/-!
Contract: a dot in balanced parentheses, the smallest grammar that counts.

Owns its parser, which gives the number of parentheses around the dot, and the text of each depth.
-/

namespace TextGrammar.Nesting

/-- Read a dot, or `inner` in parentheses, which is one deeper. -/
def body (inner : Parser Nat) : Parser Nat :=
  ((Parser.between (Parser.char '(') inner (Parser.char ')')).map (· + 1)).orElse
    ((Parser.char '.').map fun _ => 0)

/-- Read a dot in parentheses: how deep it lies. -/
def parser : Parser Nat :=
  Parser.fix body

/-- The dot in `depth` pairs of parentheses. -/
def render (depth : Nat) : List Char :=
  List.replicate depth '(' ++ '.' :: List.replicate depth ')'

end TextGrammar.Nesting
