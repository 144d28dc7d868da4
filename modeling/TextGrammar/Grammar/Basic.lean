import TextGrammar.Parser.Alternation
import TextGrammar.Parser.Pairing
import TextGrammar.Parser.Recursion
import TextGrammar.Parser.Repetition
import TextGrammar.Parser.Separated
import TextGrammar.Parser.Sequence

/-!
Contract: grammars as data, and the parsers that they denote.

Owns:
- `Grammar`, the syntax of everything that can be put together from the combinators, with rules
  that may refer to one another;
- `Grammar.parser`, the meaning of a grammar once its rules have parsers;
- `Rulebook`, a definition for each rule, and the parsers that its rules denote together, with a
  bound on the depth of their calls or, if there are finitely many rules, without one.

A parser can be any function of cursors. A grammar can only be what its constructors allow, so what
holds of every grammar is proved by going through them.
-/

namespace TextGrammar

/-- A grammar that reads a value of the given type and may refer to rules, the rule `i` reading
values of type `Values i`. There may be infinitely many rules, so that what a rule reads can depend
on what was read before it is called. -/
inductive Grammar {Rule : Type} (Values : Rule → Type) : Type → Type 1 where
  /-- Nothing is read, and the value is given. -/
  | succeed {α : Type} (value : α) : Grammar Values α
  /-- Nothing matches. -/
  | fail {α : Type} (message : String) : Grammar Values α
  /-- One given character. -/
  | char (expected : Char) : Grammar Values Char
  /-- One character, whatever it is. -/
  | anyChar : Grammar Values Char
  /-- The value is changed. -/
  | map {α β : Type} (f : α → β) (grammar : Grammar Values α) : Grammar Values β
  /-- The value may be refused. -/
  | filter {α : Type} (grammar : Grammar Values α) (accept : α → Bool) (message : String) :
      Grammar Values α
  /-- The value chooses what follows. -/
  | bind {α β : Type} (grammar : Grammar Values α) (next : α → Grammar Values β) :
      Grammar Values β
  /-- Two values, one after the other. -/
  | both {α β : Type} (left : Grammar Values α) (right : Grammar Values β) :
      Grammar Values (α × β)
  /-- A function, then its argument. -/
  | apply {α β : Type} (function : Grammar Values (α → β)) (argument : Grammar Values α) :
      Grammar Values β
  /-- One of two, the first preferred. -/
  | orElse {α : Type} (preferred alternative : Grammar Values α) : Grammar Values α
  /-- One of two or more, tried in order. -/
  | choice {α : Type} {count : Nat} (alternatives : Fin (count + 2) → Grammar Values α) :
      Grammar Values α
  /-- A value if there is one. -/
  | optional {α : Type} (grammar : Grammar Values α) : Grammar Values (Option α)
  /-- A value for each of the items, in order. -/
  | sequence {α : Type} {count : Nat} (items : Fin count → Grammar Values α) :
      Grammar Values (List α)
  /-- As many values as there are. -/
  | many {α : Type} (grammar : Grammar Values α) : Grammar Values (List α)
  /-- As many values as there are, but one at least. -/
  | many1 {α : Type} (grammar : Grammar Values α) : Grammar Values (List α)
  /-- An element and the separator after it, if there is one. -/
  | element {α β : Type} (grammar : Grammar Values α) (separator : Grammar Values β) :
      Grammar Values α
  /-- Elements with a separator between each two. -/
  | separatedList {α β : Type} (grammar : Grammar Values α) (separator : Grammar Values β) :
      Grammar Values (List α)
  /-- A grammar that is built when it is needed. -/
  | deferred {α : Type} (build : Unit → Grammar Values α) : Grammar Values α
  /-- What the rule defines. -/
  | rule (index : Rule) : Grammar Values (Values index)

namespace Grammar

variable {Rule : Type} {Values : Rule → Type} {α β γ : Type}

/-- The parser that a grammar denotes, `self` being the parsers of the rules. -/
def parser (self : Parser.Family Values) {α : Type} : Grammar Values α → Parser α
  | succeed value => .succeed value
  | fail message => .fail message
  | char expected => .char expected
  | anyChar => .anyChar
  | map f grammar => (grammar.parser self).map f
  | filter grammar accept message => (grammar.parser self).filter accept message
  | bind grammar next => (grammar.parser self).bind fun value => (next value).parser self
  | both left right => (left.parser self).both (right.parser self)
  | apply function argument => .apply (function.parser self) (argument.parser self)
  | orElse preferred alternative =>
      (preferred.parser self).orElse (alternative.parser self)
  | choice alternatives =>
      .choice
        ⟨(alternatives 0).parser self, (alternatives 1).parser self,
          List.ofFn fun index => (alternatives index.succ.succ).parser self⟩
  | optional grammar => (grammar.parser self).optional
  | sequence items => .indexed fun index => (items index).parser self
  | many grammar => (grammar.parser self).many
  | many1 grammar => (grammar.parser self).many1
  | element grammar separator => .element (grammar.parser self) (separator.parser self)
  | separatedList grammar separator =>
      .separatedList (grammar.parser self) (separator.parser self)
  | deferred build => ⟨fun cursor => ((build ()).parser self).parse cursor⟩
  | rule index => self index

end Grammar

/-- A definition for each rule, in which all rules may be referred to. -/
structure Rulebook {Rule : Type} (Values : Rule → Type) where
  define : (index : Rule) → Grammar Values (Values index)

namespace Rulebook

section AnyRules

variable {Rule : Type} {Values : Rule → Type} {α : Type}

/-- The definitions of the rules as parsers, given parsers for the references in them. -/
def body (rulebook : Rulebook Values) (self : Parser.Family Values) : Parser.Family Values :=
  fun index => (rulebook.define index).parser self

/-- The parsers of the rules, with as many calls below one another as `depth` allows for the
places ahead. -/
def parsersWithin (rulebook : Rulebook Values) (depth : Nat → Nat) : Parser.Family Values :=
  Parser.recursiveWithin depth rulebook.body

/-- The parser that a grammar denotes under rules with calls of bounded depth. -/
def parserWithin (rulebook : Rulebook Values) (depth : Nat → Nat) (grammar : Grammar Values α) :
    Parser α :=
  grammar.parser (rulebook.parsersWithin depth)

end AnyRules

section FinitelyManyRules

variable {rules : Nat} {Values : Fin rules → Type} {α : Type}

/-- The parsers of finitely many rules, which call one another freely. -/
def parsers (rulebook : Rulebook Values) : Parser.Family Values :=
  Parser.recursive rulebook.body

/-- The parser that a grammar denotes under the rules of a rulebook. -/
def parser (rulebook : Rulebook Values) (grammar : Grammar Values α) : Parser α :=
  grammar.parser rulebook.parsers

/-- Calls without bound are calls as deep as the rules and the places ahead make possible. -/
theorem parser_eq_parserWithin (rulebook : Rulebook Values) (grammar : Grammar Values α) :
    rulebook.parser grammar = rulebook.parserWithin (rules * ·) grammar := rfl

end FinitelyManyRules

end Rulebook

end TextGrammar
