import TextGrammar.Blueprint.Value

/-!
Contract: what the functions of blueprints compute.

Owns:
- `Binary.apply`, and `Function.apply` for functions of one value;
- `Predicate` and `Predicate.holds`.

Numbers are 64-bit words: sums and products wrap, and a difference stops at zero. A function that
is asked for a value outside its domain gives `unit`, and a predicate does not hold there.

Folding a list of functions leaves them to be applied one after another. `Function.applyAll` keeps
those that are still to come. Each application supplies an argument that was waited for, and none
adds a new one, so there is an end to it.
-/

namespace TextGrammar.Blueprint

/-- The value of a function of two values. -/
def Binary.apply : Binary → Value → Value → Value
  | .pair, left, right => .pair left right
  | .swap, left, right => .pair right left
  | .add, .number left, .number right => .number (left + right)
  | .mul, .number left, .number right => .number (left * right)
  | .sub, .number left, .number right => .number (if right ≤ left then left - right else 0)
  | .prepend, head, .list tail => .list (head :: tail)
  | .append, .list left, .list right => .list (left ++ right)
  | _, _, _ => .unit

namespace Value

/-- The text that a character or a text adds to a joined text. -/
def joined : Value → List Char
  | .char content => [content]
  | .text content => content.toList
  | _ => []

/-- The number in a value, if it is one. -/
def number? : Value → Option UInt64
  | .number content => some content
  | _ => none

/-- The function in a value, if it is one. -/
def function? : Value → Option Function
  | .function content => some content
  | _ => none

end Value

/-- The value of an ASCII digit, zero for any other character. -/
def digitOrZero (character : Char) : UInt64 :=
  if character.isDigit then UInt64.ofNat (character.toNat - '0'.toNat) else 0

/-- What a function makes of a value: functions still to be applied, the next one first, and the
value to begin with. -/
def Function.step : Function → Value → List Function × Value
  | .foldRight, .pair (.list functions) last =>
      ((functions.filterMap Value.function?).reverse, last)
  | .identity, value => ([], value)
  | .const result, _ => ([], result)
  | .tag label, value => ([], .pair (.text label) value)
  | .constFunction result, _ => ([], .function result)
  | .partially operation, value => ([], .function (.partlyApplied operation value))
  | .code, .char content => ([], .number (UInt64.ofNat content.toNat))
  | .digitValue, .char content => ([], .number (digitOrZero content))
  | .join, .list items => ([], .text (String.ofList (items.flatMap Value.joined)))
  | .chars, .text content => ([], .list (content.toList.map Value.char))
  | .length, .list items => ([], .number (UInt64.ofNat items.length))
  | .length, .text content => ([], .number (UInt64.ofNat content.length))
  | .sum, .list items =>
      ([], .number ((items.filterMap Value.number?).foldl (fun total next => total + next) 0))
  | .largest, .list items =>
      ([], .number ((items.filterMap Value.number?).foldl max 0))
  | .increment, .number content => ([], .number (content + 1))
  | .announce, .number content => ([], .text ("Number: " ++ toString content))
  | .reverse, .list items => ([], .list items.reverse)
  | .fst, .pair left _ => ([], left)
  | .snd, .pair _ right => ([], right)
  | .cons, .pair head (.list tail) => ([], .list (head :: tail))
  | .getOr _, .present content => ([], content)
  | .getOr default, .absent => ([], default)
  | .present, value => ([], .present value)
  | .binary operation, value => ([], .function (.partlyApplied operation value))
  | .partlyApplied operation left, right => ([], operation.apply left right)
  | _, _ => ([], .unit)

/-- The number of arguments that the functions of a list wait for. -/
def Function.weightAll : List Function → Nat
  | [] => 0
  | head :: tail => head.weight + Function.weightAll tail

theorem Function.weightAll_append (left right : List Function) :
    Function.weightAll (left ++ right) = Function.weightAll left + Function.weightAll right := by
  induction left with
  | nil => simp [Function.weightAll]
  | cons head tail inductionHypothesis =>
      simp only [List.cons_append, Function.weightAll, inductionHypothesis, Nat.add_assoc]

theorem Function.weightAll_reverse (functions : List Function) :
    Function.weightAll functions.reverse = Function.weightAll functions := by
  induction functions with
  | nil => rfl
  | cons head tail inductionHypothesis =>
      simp only [List.reverse_cons, Function.weightAll_append, inductionHypothesis,
        Function.weightAll]
      omega

private theorem weight_binary_apply (binary : Binary) (left right : Value) :
    (binary.apply left right).weight ≤ left.weight + right.weight := by
  fun_cases Binary.apply binary left right <;>
    simp only [Value.weight, Value.weightAll, Value.weightAll_append] <;> omega

private theorem weightAll_filterMap_function? (values : List Value) :
    Function.weightAll (values.filterMap Value.function?) ≤ Value.weightAll values := by
  induction values with
  | nil => simp [Function.weightAll]
  | cons head tail inductionHypothesis =>
      cases head <;>
        simp_all [Function.weightAll, Value.weightAll, Value.function?, Value.weight,
          List.filterMap_cons] <;>
        omega

private theorem weightAll_map_char (characters : List Char) :
    Value.weightAll (characters.map Value.char) = 0 := by
  induction characters with
  | nil => rfl
  | cons head tail inductionHypothesis =>
      simp [Value.weightAll, Value.weight, inductionHypothesis]

theorem Function.weight_step (function : Function) (value : Value) :
    Function.weightAll (function.step value).1 + (function.step value).2.weight <
      function.weight + value.weight := by
  fun_cases Function.step function value
  case case1 functions last =>
    have listed := weightAll_filterMap_function? functions
    simp only [Function.weightAll_reverse, Function.weight, Value.weight] at listed ⊢
    omega
  all_goals
    simp only [Function.weightAll, Function.weight, Value.weight, Value.weightAll,
      Value.weightAll_reverse, weightAll_map_char]
  case case25 operation left =>
    have applied := weight_binary_apply operation left value
    omega
  case case26 =>
    have positive := function.weight_pos
    omega
  all_goals omega

/-- Apply functions to a value, the first of the list first. -/
def Function.applyAll (functions : List Function) (value : Value) : Value :=
  match functions with
  | [] => value
  | function :: others =>
      let left := function.step value
      applyAll (left.1 ++ others) left.2
termination_by Function.weightAll functions + value.weight
decreasing_by
  have lighter := Function.weight_step function value
  simp only [Function.weightAll, Function.weightAll_append] at lighter ⊢
  omega

/-- The value of a function. -/
def Function.apply (function : Function) (value : Value) : Value :=
  Function.applyAll [function] value

/-- Use a value as a function; a value that is none gives `unit`. -/
def Value.call : Value → Value → Value
  | .function content, argument => content.apply argument
  | _, _ => .unit

/-- The conditions on values. -/
inductive Predicate where
  | always
  | never
  | eq (expected : Value)
  | ne (unwanted : Value)
  | alpha
  | digit
  | charAtMost (bound : Char)
  | even
  | numberAtMost (bound : UInt64)
  | nonempty
  | not (predicate : Predicate)

/-- Whether a condition holds of a value. -/
def Predicate.holds : Predicate → Value → Bool
  | .always, _ => true
  | .never, _ => false
  | .eq expected, value => value.same expected
  | .ne unwanted, value => !value.same unwanted
  | .alpha, .char content => content.isAlpha
  | .digit, .char content => content.isDigit
  | .charAtMost bound, .char content => content ≤ bound
  | .even, .number content => content % 2 == 0
  | .numberAtMost bound, .number content => content ≤ bound
  | .nonempty, .list items => !items.isEmpty
  | .nonempty, .text content => !content.isEmpty
  | .not predicate, value => !predicate.holds value
  | _, _ => false

end TextGrammar.Blueprint
