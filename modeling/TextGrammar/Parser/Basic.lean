import TextGrammar.Outcome

/-!
Contract: parsers and the combinators that need no more than one of them.

Owns:
- `Parser`, a run for every cursor, and `Parser.run` from the start of a text;
- the parsers that read nothing: `succeed`, `fail`, `endless`;
- `map`, `filter` and `bind`, whose continuation may depend on the value that was read;
- the lawful monad that `succeed` and `bind` make of parsers.
-/

namespace TextGrammar

/-- A parser says what running it at each cursor comes to. It may be run any number of times, and
a run leaves no trace in it. -/
@[ext] structure Parser (α : Type) where
  parse : Cursor → Outcome α

namespace Parser

variable {α β : Type}

/-- Run from the start of a text, and forget what was not read. -/
def run (parser : Parser α) (text : String) : Option (Except Failure α) :=
  (parser.parse (Cursor.ofText text)).answer

/-- Succeed with a value and read nothing. -/
def succeed (value : α) : Parser α where
  parse cursor := .success value cursor

/-- Fail with a message. -/
def fail (message : String) : Parser α where
  parse _ := .failure (.failed message)

/-- Never return. -/
def endless : Parser α where
  parse _ := .endless

/-- Change the value that was read. -/
def map (f : α → β) (parser : Parser α) : Parser β where
  parse cursor := (parser.parse cursor).map f

/-- Refuse, with `message`, a value that `accept` does not accept. -/
def filter (parser : Parser α) (accept : α → Bool) (message : String) : Parser α where
  parse cursor := (parser.parse cursor).andThen fun value next =>
    if accept value then .success value next else .failure (.refused message)

/-- Go on with the parser that the value chooses. -/
def bind (parser : Parser α) (next : α → Parser β) : Parser β where
  parse cursor := (parser.parse cursor).andThen fun value between => (next value).parse between

instance : Monad Parser where
  pure := succeed
  bind := bind

@[simp] theorem parse_succeed (value : α) (cursor : Cursor) :
    (succeed value).parse cursor = .success value cursor := rfl

@[simp] theorem parse_fail (message : String) (cursor : Cursor) :
    (fail message : Parser α).parse cursor = .failure (.failed message) := rfl

@[simp] theorem parse_endless (cursor : Cursor) :
    (endless : Parser α).parse cursor = .endless := rfl

@[simp] theorem parse_map (f : α → β) (parser : Parser α) (cursor : Cursor) :
    (parser.map f).parse cursor = (parser.parse cursor).map f := rfl

theorem parse_filter (parser : Parser α) (accept : α → Bool) (message : String)
    (cursor : Cursor) :
    (parser.filter accept message).parse cursor =
      (parser.parse cursor).andThen fun value next =>
        if accept value then .success value next else .failure (.refused message) := rfl

@[simp] theorem parse_bind (parser : Parser α) (next : α → Parser β) (cursor : Cursor) :
    (parser.bind next).parse cursor =
      (parser.parse cursor).andThen fun value between => (next value).parse between := rfl

theorem pure_eq_succeed (value : α) : (pure value : Parser α) = succeed value := rfl

theorem monadBind_eq_bind (parser : Parser α) (next : α → Parser β) :
    parser >>= next = parser.bind next := rfl

theorem succeed_bind (value : α) (next : α → Parser β) :
    (succeed value).bind next = next value := rfl

theorem bind_succeed (parser : Parser α) : parser.bind succeed = parser := by
  apply Parser.ext
  funext cursor
  cases outcome : parser.parse cursor <;> simp [outcome]

theorem bind_assoc {γ : Type} (parser : Parser α) (next : α → Parser β)
    (last : β → Parser γ) :
    (parser.bind next).bind last = parser.bind fun value => (next value).bind last := by
  apply Parser.ext
  funext cursor
  simp [Outcome.andThen_assoc]

instance : LawfulMonad Parser :=
  LawfulMonad.mk' Parser bind_succeed succeed_bind bind_assoc

end Parser

end TextGrammar
