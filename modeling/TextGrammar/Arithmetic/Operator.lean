import TextGrammar.Lexical

/-!
Contract: what the arithmetic grammars share.

Owns the four operators, with their characters and their meaning on floating-point numbers, and
`number`, a literal as a floating-point number.
-/

namespace TextGrammar.Arithmetic

/-- The operators on two numbers. -/
inductive Operator where
  | add
  | sub
  | mul
  | div
deriving DecidableEq, Repr

namespace Operator

/-- The operators in the order in which they are tried. -/
def all : Alternatives Operator :=
  ⟨.add, .sub, [.mul, .div]⟩

theorem mem_all (operator : Operator) : operator ∈ all.toList := by
  cases operator <;> decide

/-- The character of an operator. -/
def symbol : Operator → Char
  | .add => '+'
  | .sub => '-'
  | .mul => '*'
  | .div => '/'

/-- The value of an operator. -/
def apply : Operator → Float → Float → Float
  | .add, left, right => left + right
  | .sub, left, right => left - right
  | .mul, left, right => left * right
  | .div, left, right => left / right

/-- The operator of a character. What is none of the other three is taken for a division. -/
def ofSymbol : Char → Operator
  | '+' => .add
  | '-' => .sub
  | '*' => .mul
  | _ => .div

@[simp] theorem ofSymbol_symbol (operator : Operator) : ofSymbol operator.symbol = operator := by
  cases operator <;> rfl

/-- Read an operator. -/
def parser : Parser Operator :=
  (Parser.anyOf (all.map symbol)).map ofSymbol

end Operator

/-- Read a number. -/
def number : Parser Float :=
  Parser.natural.map UInt64.toFloat

end TextGrammar.Arithmetic
