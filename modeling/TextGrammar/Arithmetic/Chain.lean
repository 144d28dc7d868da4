import TextGrammar.Arithmetic.Operator

/-!
Contract: numbers with operators between them, computed from the right.

Owns `chain`. Each number before an operator becomes a function that waits for its right operand;
the last number is given to the last function, the result to the one before it, and so on.
-/

namespace TextGrammar.Arithmetic

/-- Read blanks, then a number. -/
def spacedNumber : Parser Float :=
  Parser.second Parser.blanks number

/-- Read a number and a given operator: the function that waits for the right operand. -/
def pendingFor (operator : Operator) : Parser (Float → Float) :=
  (Parser.first spacedNumber (Parser.padded (Parser.char operator.symbol))).map operator.apply

/-- Read a number and an operator: the function that waits for the right operand. -/
def pending : Parser (Float → Float) :=
  Parser.choice (Operator.all.map pendingFor)

/-- Give `last` to the last function, its result to the one before it, and so on to the first. -/
def resolve (functions : List (Float → Float)) (last : Float) : Float :=
  functions.foldr (fun function value => function value) last

/-- Read numbers with operators between them, and compute from the right. -/
def chain : Parser Float :=
  (Parser.both pending.many spacedNumber).map fun read => resolve read.1 read.2

end TextGrammar.Arithmetic
