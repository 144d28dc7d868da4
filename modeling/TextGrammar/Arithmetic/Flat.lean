import TextGrammar.Arithmetic.Operator

/-!
Contract: one number, or two numbers with an operator between them.

Owns `flat`. Blanks may surround the operator. Where no operator with a second number follows, the
first number stands alone and nothing after it is read.
-/

namespace TextGrammar.Arithmetic

/-- Read two numbers with a given operator between them, and compute. -/
def operation (operator : Operator) : Parser Float :=
  Parser.lift2 operator.apply
    (Parser.first number (Parser.padded (Parser.char operator.symbol)))
    number

/-- Read a number, or two with an operator between them, and compute. -/
def flat : Parser Float :=
  Parser.choice
    ⟨operation .add, operation .sub, [operation .mul, operation .div, number]⟩

end TextGrammar.Arithmetic
