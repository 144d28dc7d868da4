import TextGrammar.Arithmetic.Operator
import TextGrammar.Parser.Recursion

/-!
Contract: expressions in which every operation stands in parentheses.

Owns the expression trees, their parser and their value. An expression is a literal, or an opening
parenthesis, an expression, an operator, an expression and a closing parenthesis, with blanks
allowed around the two inner expressions.
-/

namespace TextGrammar.Arithmetic

/-- An expression. -/
inductive Tree where
  | literal (value : Float)
  | operation (operator : Operator) (left right : Tree)
deriving Repr

namespace Tree

/-- The value of an expression. -/
def eval : Tree → Float
  | literal value => value
  | operation operator left right => operator.apply left.eval right.eval

/-- Read a literal. -/
def literalParser : Parser Tree :=
  number.map literal

/-- Read an operation in parentheses, with `operand` for the expressions in it. -/
def operationParser (operand : Parser Tree) : Parser Tree :=
  (Parser.between (Parser.char '(')
      (((Parser.padded operand).both Operator.parser).both (Parser.padded operand))
      (Parser.char ')')).map
    fun read => operation read.1.2 read.1.1 read.2

/-- Read an expression, with `operand` for the expressions in it. -/
def body (operand : Parser Tree) : Parser Tree :=
  literalParser.orElse (operationParser operand)

/-- Read an expression. -/
def parser : Parser Tree :=
  Parser.fix body

end Tree

end TextGrammar.Arithmetic
