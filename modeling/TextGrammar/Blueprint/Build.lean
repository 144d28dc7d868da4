import TextGrammar.Blueprint.Basic
import TextGrammar.Grammar.Derived

/-!
Contract: from blueprints to grammars.

Owns:
- `Blueprint.build`, which checks the fixed arguments of every combinator and gives the grammar of
  all that were accepted, or the first refusal;
- `BlueprintBook.build`, the parser of a blueprint under its rules.

The order of checking decides which refusal is seen. The rules come first, in order. Within a
blueprint the parts come before the whole, from left to right, and a continuation comes after the
part whose value it continues. The blueprints inside a continuation, and those that are deferred,
are checked like any other part; a reference to a rule is not followed.

A continuation that is given a value outside its domain matches nothing.
-/

namespace TextGrammar

open Blueprint (Value Function Binary Predicate)

/-- A grammar that reads values of blueprints, as do all its rules. -/
abbrev ValueGrammar (rules : Nat) : Type 1 :=
  Grammar (fun _ : Fin rules => Value) Value

namespace ValueGrammar

variable {rules : Nat}

/-- A grammar of characters. -/
def ofChar (grammar : Grammar (fun _ : Fin rules => Value) Char) : ValueGrammar rules :=
  grammar.map .char

/-- A grammar of texts. -/
def ofText (grammar : Grammar (fun _ : Fin rules => Value) String) : ValueGrammar rules :=
  grammar.map .text

/-- A grammar of numbers. -/
def ofNumber (grammar : Grammar (fun _ : Fin rules => Value) UInt64) : ValueGrammar rules :=
  grammar.map .number

/-- A grammar of lists. -/
def ofList (grammar : Grammar (fun _ : Fin rules => Value) (List Value)) :
    ValueGrammar rules :=
  grammar.map .list

/-- A grammar of pairs. -/
def ofPair (grammar : Grammar (fun _ : Fin rules => Value) (Value × Value)) :
    ValueGrammar rules :=
  grammar.map fun read => .pair read.1 read.2

/-- A grammar of values that may be absent. -/
def ofOption (grammar : Grammar (fun _ : Fin rules => Value) (Option Value)) :
    ValueGrammar rules :=
  grammar.map fun read =>
    match read with
    | some content => .present content
    | none => .absent

end ValueGrammar

namespace Continuation

variable {rules : Nat}

/-- The bracket that closes an opening bracket; any other character closes itself. -/
def closing : Char → Char
  | '(' => ')'
  | '[' => ']'
  | '\x7b' => '\x7d'
  | '<' => '>'
  | other => other

/-- Matches nothing, as the value is outside the domain. -/
def outside : ValueGrammar rules :=
  .fail "value outside the domain"

/-- Read a character found from the one that was read. -/
def charFrom (f : Char → Char) : Value → ValueGrammar rules
  | .char content => .ofChar (.char (f content))
  | _ => outside

/-- Read the character that was read as often as it comes. -/
def manyOf : Value → ValueGrammar rules
  | .char content => .ofList (.many (ValueGrammar.ofChar (.char content)))
  | _ => outside

/-- Read the text that was read. -/
def textOf : Value → ValueGrammar rules
  | .text content => .ofText (.text content)
  | _ => outside

/-- Read an item as often as the number says. -/
def copies (item : ValueGrammar rules) : Value → ValueGrammar rules
  | .number count => .ofList (.sequence fun _ : Fin count.toNat => item)
  | _ => outside

/-- Accept an even digit only. -/
def evenDigit : Value → ValueGrammar rules
  | .char content =>
      if content.isDigit && content.toNat % 2 == 0 then
        .succeed (.char content)
      else
        .fail "expected an even digit"
  | _ => outside

end Continuation

mutual

/-- The grammar of a blueprint, or the first refusal in it. -/
def Blueprint.build {rules : Nat} :
    Blueprint rules → Except ConstructionError (ValueGrammar rules)
  | .char text => do
      let grammar ← Grammar.charOfText text
      return .ofChar grammar
  | .anyChar => return .ofChar .anyChar
  | .anyOf characters => do
      let grammar ← Grammar.anyOfList characters.toList
      return .ofChar grammar
  | .text expected => return .ofText (.text expected)
  | .succeed value => return .succeed value
  | .fail message => return .fail message
  | .digit => return .ofChar .digit
  | .letter => return .ofChar .letter
  | .digits => return .ofText .digits
  | .letters => return .ofText .letters
  | .natural => return .ofNumber .natural
  | .blanks => return .map (fun _ => .unit) .blanks
  | .padded content => do
      let content ← content.build
      return .padded content
  | .both left right => do
      let left ← left.build
      let right ← right.build
      return .ofPair (.both left right)
  | .orElse preferred alternative => do
      let preferred ← preferred.build
      let alternative ← alternative.build
      return .orElse preferred alternative
  | .choice alternatives => do
      let alternatives ← Blueprint.buildAll alternatives
      Grammar.choiceOfList alternatives
  | .sequence items => do
      let items ← Blueprint.buildAll items
      return .ofList (.sequenceOf items)
  | .many item => do
      let item ← item.build
      return .ofList (.many item)
  | .many1 item => do
      let item ← item.build
      return .ofList (.many1 item)
  | .optional content => do
      let content ← content.build
      return .ofOption (.optional content)
  | .first kept dropped => do
      let kept ← kept.build
      let dropped ← dropped.build
      return .first kept dropped
  | .second dropped kept => do
      let dropped ← dropped.build
      let kept ← kept.build
      return .second dropped kept
  | .between opening content closing => do
      let opening ← opening.build
      let content ← content.build
      let closing ← closing.build
      return .between opening content closing
  | .separatedBy item separator => do
      let item ← item.build
      let separator ← separator.build
      return .ofList (.separatedBy item separator)
  | .separatedList item separator => do
      let item ← item.build
      let separator ← separator.build
      return .ofList (.separatedList item separator)
  | .map content function => do
      let content ← content.build
      return .map function.apply content
  | .filter content accept message => do
      let content ← content.build
      return .filter content accept.holds message
  | .apply function argument => do
      let function ← function.build
      let argument ← argument.build
      return .apply (function.map Value.call) argument
  | .lift2 operation left right => do
      let left ← left.build
      let right ← right.build
      return .lift2 operation.apply left right
  | .bind content next => do
      let content ← content.build
      let next ← next.build
      return .bind content next
  | .deferred content => do
      let content ← content.build
      return .deferred fun _ => content
  | .rule index => return .rule index

/-- The grammars of a list of blueprints, or the first refusal in them. -/
def Blueprint.buildAll {rules : Nat} :
    List (Blueprint rules) → Except ConstructionError (List (ValueGrammar rules))
  | [] => return []
  | head :: tail => do
      let head ← head.build
      let tail ← Blueprint.buildAll tail
      return head :: tail

/-- The grammar that a continuation chooses for each value, or the first refusal in it. -/
def Continuation.build {rules : Nat} :
    Continuation rules → Except ConstructionError (Value → ValueGrammar rules)
  | .succeed => return .succeed
  | .fail message => return fun _ => .fail message
  | .same => return Continuation.charFrom id
  | .manySame => return Continuation.manyOf
  | .close => return Continuation.charFrom Continuation.closing
  | .text => return Continuation.textOf
  | .take => return Continuation.copies (.ofChar .anyChar)
  | .times item => do
      let item ← item.build
      return Continuation.copies item
  | .branch expected equal different => do
      let equal ← equal.build
      let different ← different.build
      return fun value => if value.same expected then equal else different
  | .keep next => do
      let next ← next.build
      return fun value => .map (Value.pair value) (next value)
  | .even => return Continuation.evenDigit

end

namespace BlueprintBook

/-- The grammars of the rules and of the blueprint, or the first refusal in them. -/
def grammars (book : BlueprintBook) :
    Except ConstructionError
      (Rulebook (fun _ : Fin book.rules => Value) × ValueGrammar book.rules) := do
  let definitions ← book.define.mapM Blueprint.build
  let start ← book.start.build
  return (⟨fun index => definitions[index]⟩, start)

/-- The parser of a blueprint under its rules, or the first refusal in them. -/
def build (book : BlueprintBook) : Except ConstructionError (Parser Value) :=
  book.grammars.map fun built => built.1.parser built.2

end BlueprintBook

end TextGrammar
