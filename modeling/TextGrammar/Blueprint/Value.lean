/-!
Contract: the values that blueprints compute with.

Owns:
- `Value`, one type for all that a blueprint can read, and `Function`, its functions by name;
- `Value.same`, equality of values;
- `Value.weight`, the number of arguments that the functions in a value still wait for.

Functions are data, so that they can be read, kept, partly applied and shown like other values.
-/

namespace TextGrammar.Blueprint

/-- The functions of two values. -/
inductive Binary where
  | pair
  | swap
  | add
  | mul
  | sub
  | prepend
  | append
deriving DecidableEq, Repr

mutual

/-- A value of a blueprint. -/
inductive Value where
  | char (content : Char)
  | text (content : String)
  | number (content : UInt64)
  | list (items : List Value)
  | pair (left right : Value)
  | absent
  | present (content : Value)
  | unit
  | function (content : Function)

/-- A function of one value. -/
inductive Function where
  | identity
  | const (result : Value)
  | tag (label : String)
  | constFunction (result : Function)
  | partially (binary : Binary)
  | code
  | digitValue
  | join
  | chars
  | length
  | sum
  | largest
  | increment
  | announce
  | reverse
  | fst
  | snd
  | cons
  | getOr (default : Value)
  | present
  | foldRight
  | binary (binary : Binary)
  | partlyApplied (binary : Binary) (first : Value)

end

mutual

/-- Whether two values are equal. -/
def Value.same : Value → Value → Bool
  | .char left, .char right => left == right
  | .text left, .text right => left == right
  | .number left, .number right => left == right
  | .list left, .list right => Value.sameAll left right
  | .pair left left', .pair right right' => left.same right && left'.same right'
  | .absent, .absent => true
  | .present left, .present right => left.same right
  | .unit, .unit => true
  | .function left, .function right => left.same right
  | _, _ => false

/-- Whether two lists of values are equal. -/
def Value.sameAll : List Value → List Value → Bool
  | [], [] => true
  | left :: lefts, right :: rights => left.same right && Value.sameAll lefts rights
  | _, _ => false

/-- Whether two functions are written alike. -/
def Function.same : Function → Function → Bool
  | .identity, .identity => true
  | .const left, .const right => left.same right
  | .tag left, .tag right => left == right
  | .constFunction left, .constFunction right => left.same right
  | .partially left, .partially right => left == right
  | .code, .code => true
  | .digitValue, .digitValue => true
  | .join, .join => true
  | .chars, .chars => true
  | .length, .length => true
  | .sum, .sum => true
  | .largest, .largest => true
  | .increment, .increment => true
  | .announce, .announce => true
  | .reverse, .reverse => true
  | .fst, .fst => true
  | .snd, .snd => true
  | .cons, .cons => true
  | .getOr left, .getOr right => left.same right
  | .present, .present => true
  | .foldRight, .foldRight => true
  | .binary left, .binary right => left == right
  | .partlyApplied left left', .partlyApplied right right' => left == right && left'.same right'
  | _, _ => false

end

mutual

/-- The number of arguments that the functions in a value wait for. -/
def Value.weight : Value → Nat
  | .list items => Value.weightAll items
  | .pair left right => left.weight + right.weight
  | .present content => content.weight
  | .function content => content.weight
  | _ => 0

/-- The number of arguments that the functions in a list of values wait for. -/
def Value.weightAll : List Value → Nat
  | [] => 0
  | head :: tail => head.weight + Value.weightAll tail

/-- The number of arguments that a function and the functions in it wait for. -/
def Function.weight : Function → Nat
  | .const result => result.weight + 1
  | .constFunction result => result.weight + 1
  | .getOr default => default.weight + 1
  | .partlyApplied _ first => first.weight + 1
  | .partially _ => 2
  | .binary _ => 2
  | _ => 1

end

theorem Function.weight_pos (function : Function) : 0 < function.weight := by
  cases function <;> simp [Function.weight]

theorem Value.weightAll_append (left right : List Value) :
    Value.weightAll (left ++ right) = Value.weightAll left + Value.weightAll right := by
  induction left with
  | nil => simp [Value.weightAll]
  | cons head tail inductionHypothesis =>
      simp only [List.cons_append, Value.weightAll, inductionHypothesis, Nat.add_assoc]

theorem Value.weightAll_reverse (values : List Value) :
    Value.weightAll values.reverse = Value.weightAll values := by
  induction values with
  | nil => rfl
  | cons head tail inductionHypothesis =>
      simp only [List.reverse_cons, Value.weightAll_append, inductionHypothesis,
        Value.weightAll]
      omega

end TextGrammar.Blueprint
