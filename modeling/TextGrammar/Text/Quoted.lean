import TextGrammar.Text.DefaultIgnorable
import TextGrammar.Text.GraphemeExtend
import TextGrammar.Text.Unprintable

/-!
Contract: text in quotation marks, in which every character can be seen.

Owns `Quoted.quote`, and that it leaves plain characters as they are. The null character, tab, line
feed, carriage return, the quotation mark and the backslash have short escapes. Characters that
attach to the one before, characters without a visible form and characters that are shown as nothing
are written by their code point in hexadecimal; all others stand for themselves.

The halfwidth voiced and semi-voiced sound marks attach to the character before them as far as the
division of text goes, but each is drawn in a place of its own. They stand for themselves.
-/

namespace TextGrammar.Quoted

/-- The digit for a number below sixteen. -/
def hexDigit (digit : Nat) : Char :=
  if digit < 10 then Char.ofNat ('0'.toNat + digit) else Char.ofNat ('a'.toNat + digit - 10)

/-- The hexadecimal digits of a number, at most `count` of them, before the digits `tail`. -/
def hexDigitsOnto (tail : List Char) : (count : Nat) → Nat → List Char
  | 0, _ => tail
  | count + 1, number =>
      if number < 16 then
        hexDigit number :: tail
      else
        hexDigitsOnto (hexDigit (number % 16) :: tail) count (number / 16)

/-- A character by its code point: hexadecimal, in lower case and without leading zeros. Six digits
are enough for every code point. -/
def codePoint (character : Char) : List Char :=
  ['\\', 'u', '\x7b'] ++ hexDigitsOnto ['\x7d'] 6 character.toNat

/-- The halfwidth marks that attach to a character and still have a place of their own. -/
def isSoundMark (character : Char) : Bool :=
  character == '\uff9e' || character == '\uff9f'

/-- Whether a character cannot be seen as one of its own. -/
def isHidden (character : Char) : Bool :=
  (isGraphemeExtending character && !isSoundMark character) ||
    isUnprintable character || isDefaultIgnorable character

/-- How a character is written between quotation marks. -/
def escape (character : Char) : List Char :=
  match character with
  | '\x00' => ['\\', '0']
  | '\t' => ['\\', 't']
  | '\n' => ['\\', 'n']
  | '\r' => ['\\', 'r']
  | '"' => ['\\', '"']
  | '\\' => ['\\', '\\']
  | other =>
      if isHidden other then codePoint other else [other]

theorem isHidden_eq_false_of_visible {character : Char}
    (low : 0x20 ≤ character.toNat) (high : character.toNat ≤ 0x7e) :
    isHidden character = false := by
  have notExtending : isGraphemeExtending character = false :=
    isGraphemeExtending_eq_false_of_lt (by omega)
  have notIgnorable : isDefaultIgnorable character = false :=
    isDefaultIgnorable_eq_false_of_lt (by omega)
  simp [isHidden, notExtending, notIgnorable, isUnprintable_eq_false_of_visible low high]

/-- A visible character of ASCII other than the quotation mark and the backslash. -/
structure Plain (character : Char) : Prop where
  low : 0x20 ≤ character.toNat
  high : character.toNat ≤ 0x7e
  not_mark : character ≠ '"'
  not_backslash : character ≠ '\\'

theorem Plain.escape_eq {character : Char} (plain : Plain character) :
    escape character = [character] := by
  have shown := isHidden_eq_false_of_visible plain.low plain.high
  fun_cases escape character
  case case5 => exact absurd rfl plain.not_mark
  case case6 => exact absurd rfl plain.not_backslash
  case case7 hidden => simp [shown] at hidden
  case case8 => rfl
  all_goals exact absurd plain.low (by decide)

/-- The text in quotation marks. -/
def quote (text : String) : String :=
  String.ofList ('"' :: text.toList.flatMap escape ++ ['"'])

theorem flatMap_escape_of_plain {characters : List Char}
    (plain : ∀ character ∈ characters, Plain character) :
    characters.flatMap escape = characters := by
  induction characters with
  | nil => rfl
  | cons head tail inductionHypothesis =>
      rw [List.flatMap_cons, (plain head List.mem_cons_self).escape_eq, List.singleton_append,
        inductionHypothesis fun character member =>
          plain character (List.mem_cons_of_mem head member)]

/-- Where every character is plain, the text stands between its quotation marks unchanged. -/
theorem quote_of_plain {text : String} (plain : ∀ character ∈ text.toList, Plain character) :
    quote text = "\"" ++ text ++ "\"" := by
  rw [quote, flatMap_escape_of_plain plain, ← String.toList_inj]
  simp

end TextGrammar.Quoted
