import TextGrammar.Grammar.Basic
import TextGrammar.Lexical

/-!
Contract: grammars that are put together from the constructors.

Owns the combinators and lexemes that need no constructor of their own, and the lists of grammars
that a choice or a sequence takes. Each denotes the parser of the same name.
-/

namespace TextGrammar.Grammar

variable {Rule : Type} {Values : Rule → Type} {α β γ : Type}

/-- A value for each grammar of a list, in order. -/
def sequenceOf (grammars : List (Grammar Values α)) : Grammar Values (List α) :=
  let items := grammars.toArray
  sequence fun index : Fin items.size => items[index]

/-- One of two or more grammars, tried in order. -/
def choiceOf (alternatives : Alternatives (Grammar Values α)) : Grammar Values α :=
  choice fun index : Fin (alternatives.others.length + 2) => alternatives.toList.get index

/-- The one character of a text. -/
def charOfText (text : String) : Except ConstructionError (Grammar Values Char) :=
  (singleChar text).map char

/-- One of the grammars of a list, tried in order; there must be two or more. -/
def choiceOfList (grammars : List (Grammar Values α)) :
    Except ConstructionError (Grammar Values α) :=
  (Alternatives.ofList .choice grammars).map choiceOf

/-- One of two or more characters. -/
def anyOf (characters : Alternatives Char) : Grammar Values Char :=
  choiceOf (characters.map char)

/-- One of the characters of a list; there must be two or more. -/
def anyOfList (characters : List Char) : Except ConstructionError (Grammar Values Char) :=
  (Alternatives.ofList .anyOf characters).map anyOf

/-- A given text. -/
def text (expected : String) : Grammar Values String :=
  map String.ofList (sequenceOf (expected.toList.map char))

/-- Two values, of which the first is kept. -/
def first (kept : Grammar Values α) (dropped : Grammar Values β) : Grammar Values α :=
  map Prod.fst (both kept dropped)

/-- Two values, of which the second is kept. -/
def second (dropped : Grammar Values α) (kept : Grammar Values β) : Grammar Values β :=
  map Prod.snd (both dropped kept)

/-- What stands between two delimiters. -/
def between (opening : Grammar Values α) (content : Grammar Values β)
    (closing : Grammar Values γ) : Grammar Values β :=
  second opening (first content closing)

/-- Two values, combined. -/
def lift2 (f : α → β → γ) (left : Grammar Values α) (right : Grammar Values β) :
    Grammar Values γ :=
  apply (apply (succeed f) left) right

/-- One element or more, each with the separator after it, if there is one. -/
def separatedBy (grammar : Grammar Values α) (separator : Grammar Values β) :
    Grammar Values (List α) :=
  many1 (element grammar separator)

/-- A decimal digit. -/
def digit : Grammar Values Char :=
  filter anyChar Char.isDigit "expected digit"

/-- A letter. -/
def letter : Grammar Values Char :=
  filter anyChar Char.isAlpha "expected letter"

/-- One digit or more. -/
def digits : Grammar Values String :=
  map String.ofList (many1 digit)

/-- One letter or more. -/
def letters : Grammar Values String :=
  map String.ofList (many1 letter)

/-- The number of a literal, if it fits in a word. -/
def wordOfLiteral (literal : String) : Grammar Values UInt64 :=
  let value := decimalValue literal.toList
  if value < UInt64.size then
    succeed (UInt64.ofNat value)
  else
    fail ("number out of range: " ++ literal)

/-- A decimal literal of a word. -/
def natural : Grammar Values UInt64 :=
  bind digits wordOfLiteral

/-- A space or a tab. -/
def blank : Grammar Values Char :=
  orElse (char ' ') (char '\t')

/-- Spaces and tabs, if any. -/
def blanks : Grammar Values Unit :=
  map (fun _ => ()) (many blank)

/-- Blanks before and after are skipped. -/
def padded (grammar : Grammar Values α) : Grammar Values α :=
  between blanks grammar blanks

variable (self : Parser.Family Values)

private theorem ofFn_get_eq_map {δ : Type u} {ε : Type v} (f : δ → ε) (items : List δ) :
    (List.ofFn fun index : Fin items.length => f (items.get index)) = items.map f := by
  apply List.ext_getElem <;> simp

theorem parser_sequenceOf (grammars : List (Grammar Values α)) :
    (sequenceOf grammars).parser self = .sequence (grammars.map (parser self)) := by
  rw [sequenceOf, parser, Parser.indexed_eq_sequence]
  exact congrArg Parser.sequence (ofFn_get_eq_map (parser self) grammars)

theorem parser_choiceOf (alternatives : Alternatives (Grammar Values α)) :
    (choiceOf alternatives).parser self = .choice (alternatives.map (parser self)) := by
  exact congrArg (fun others => Parser.choice ⟨_, _, others⟩)
    (ofFn_get_eq_map (parser self) alternatives.others)

theorem parser_anyOf (characters : Alternatives Char) :
    (anyOf characters : Grammar Values Char).parser self = .anyOf characters := by
  simp [anyOf, parser_choiceOf, Parser.anyOf, Alternatives.map, parser, Function.comp_def]

theorem parser_text (expected : String) :
    (text expected : Grammar Values String).parser self = .text expected := by
  simp [text, parser, parser_sequenceOf, Parser.text, Function.comp_def]

theorem parser_first (kept : Grammar Values α) (dropped : Grammar Values β) :
    (first kept dropped).parser self = .first (kept.parser self) (dropped.parser self) := rfl

theorem parser_second (dropped : Grammar Values α) (kept : Grammar Values β) :
    (second dropped kept).parser self = .second (dropped.parser self) (kept.parser self) := rfl

theorem parser_between (opening : Grammar Values α) (content : Grammar Values β)
    (closing : Grammar Values γ) :
    (between opening content closing).parser self =
      .between (opening.parser self) (content.parser self) (closing.parser self) := rfl

theorem parser_lift2 (f : α → β → γ) (left : Grammar Values α) (right : Grammar Values β) :
    (lift2 f left right).parser self =
      .lift2 f (left.parser self) (right.parser self) := rfl

theorem parser_separatedBy (grammar : Grammar Values α) (separator : Grammar Values β) :
    (separatedBy grammar separator).parser self =
      .separatedBy (grammar.parser self) (separator.parser self) := rfl

theorem parser_digits : (digits : Grammar Values String).parser self = .digits := rfl

theorem parser_letters : (letters : Grammar Values String).parser self = .letters := rfl

theorem parser_wordOfLiteral (literal : String) :
    (wordOfLiteral literal : Grammar Values UInt64).parser self =
      .wordOfLiteral literal := by
  simp only [wordOfLiteral, Parser.wordOfLiteral]
  split <;> rfl

theorem parser_natural : (natural : Grammar Values UInt64).parser self = .natural := by
  simp only [natural, parser, Parser.natural, parser_digits, parser_wordOfLiteral]

theorem parser_blanks : (blanks : Grammar Values Unit).parser self = .blanks := rfl

theorem parser_padded (grammar : Grammar Values α) :
    (padded grammar).parser self = .padded (grammar.parser self) := rfl

end TextGrammar.Grammar
