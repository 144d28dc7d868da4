import TextGrammar.ConstructionError
import TextGrammar.Parser.Basic

/-!
Contract: the parsers of one character, the only ones that look at the text itself.

Owns `Parser.char` for one given character, `Parser.charOfText`, which takes that character from a
text and refuses a text of another length, and `Parser.anyChar`.
-/

namespace TextGrammar

namespace Parser

/-- Read the character `expected`. -/
def char (expected : Char) : Parser Char where
  parse cursor :=
    match cursor.current with
    | some found =>
        if found = expected then
          .success found cursor.next
        else
          .failure (.charMismatch expected (some found))
    | none => .failure (.charMismatch expected none)

/-- Read the one character of `text`. -/
def charOfText (text : String) : Except ConstructionError (Parser Char) :=
  (singleChar text).map char

/-- Read one character, whatever it is. -/
def anyChar : Parser Char where
  parse cursor :=
    match cursor.current with
    | some found => .success found cursor.next
    | none => .failure .noCharacter

theorem parse_char_of_current {cursor : Cursor} {expected : Char}
    (found : cursor.current = some expected) :
    (char expected).parse cursor = .success expected cursor.next := by
  simp [char, found]

theorem parse_char_of_ne {cursor : Cursor} {expected : Char}
    (different : cursor.current ≠ some expected) :
    (char expected).parse cursor = .failure (.charMismatch expected cursor.current) := by
  cases currentEq : cursor.current with
  | none => simp [char, currentEq]
  | some found =>
      have foundNe : found ≠ expected := by
        intro equal
        exact different (by rw [currentEq, equal])
      simp [char, currentEq, foundNe]

theorem parse_anyChar_of_current {cursor : Cursor} {found : Char}
    (currentEq : cursor.current = some found) :
    anyChar.parse cursor = .success found cursor.next := by
  simp [anyChar, currentEq]

theorem parse_anyChar_of_none {cursor : Cursor} (currentEq : cursor.current = none) :
    anyChar.parse cursor = .failure .noCharacter := by
  simp [anyChar, currentEq]

end Parser

end TextGrammar
