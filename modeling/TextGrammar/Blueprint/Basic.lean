import TextGrammar.Blueprint.Function

/-!
Contract: grammars written down by name, before anything about them is checked.

Owns:
- `Blueprint`, a grammar by the names and fixed arguments of its combinators, with references to
  rules by their number;
- `Continuation`, what a blueprint may do with a value that was read;
- `BlueprintBook`, a blueprint together with the blueprints of its rules.
-/

namespace TextGrammar

open Blueprint (Value Function Binary Predicate)

mutual

/-- A grammar by the names of its combinators, which may refer to `rules` rules. -/
inductive Blueprint (rules : Nat) where
  | char (text : String)
  | anyChar
  | anyOf (characters : String)
  | text (expected : String)
  | succeed (value : Value)
  | fail (message : String)
  | digit
  | letter
  | digits
  | letters
  | natural
  | blanks
  | padded (content : Blueprint rules)
  | both (left right : Blueprint rules)
  | orElse (preferred alternative : Blueprint rules)
  | choice (alternatives : List (Blueprint rules))
  | sequence (items : List (Blueprint rules))
  | many (item : Blueprint rules)
  | many1 (item : Blueprint rules)
  | optional (content : Blueprint rules)
  | first (kept dropped : Blueprint rules)
  | second (dropped kept : Blueprint rules)
  | between (opening content closing : Blueprint rules)
  | separatedBy (item separator : Blueprint rules)
  | separatedList (item separator : Blueprint rules)
  | map (content : Blueprint rules) (function : Function)
  | filter (content : Blueprint rules) (accept : Predicate) (message : String)
  | apply (function argument : Blueprint rules)
  | lift2 (operation : Binary) (left right : Blueprint rules)
  | bind (content : Blueprint rules) (next : Continuation rules)
  | deferred (content : Blueprint rules)
  | rule (index : Fin rules)

/-- What follows a value, chosen by the value. -/
inductive Continuation (rules : Nat) where
  /-- Give the value. -/
  | succeed
  | fail (message : String)
  /-- Read the same character again. -/
  | same
  /-- Read the same character as often as it comes. -/
  | manySame
  /-- Read the bracket that closes the one read. -/
  | close
  /-- Read the text that was read. -/
  | text
  /-- Read as many characters as the number says. -/
  | take
  /-- Read as many times as the number says. -/
  | times (item : Blueprint rules)
  /-- Go on in one of two ways. -/
  | branch (expected : Value) (equal different : Blueprint rules)
  /-- Go on, and keep the value beside what is read. -/
  | keep (next : Continuation rules)
  /-- Accept an even digit only. -/
  | even

end

/-- A blueprint and the blueprints of the rules that it refers to. -/
structure BlueprintBook where
  rules : Nat
  define : Vector (Blueprint rules) rules
  start : Blueprint rules

end TextGrammar
