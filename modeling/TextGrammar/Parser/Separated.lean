import TextGrammar.Parser.Alternation
import TextGrammar.Parser.Pairing
import TextGrammar.Parser.Repetition

/-!
Contract: lists whose elements are divided by separators, in two readings.

Owns:
- `element` and `separatedBy`, the lenient reading: each element takes the separator after it, if
  there is one, so a last separator is read and elements may also stand side by side;
- `moreWithin` and `separatedList`, the strict reading: a separator promises another element, and
  if that fails, so does the list.
-/

namespace TextGrammar

namespace Parser

variable {α β : Type}

/-- Read an element and the separator after it, if there is one. -/
def element (parser : Parser α) (separator : Parser β) : Parser α where
  parse cursor := (parser.parse cursor).andThen fun value afterValue =>
    ((separator.parse afterValue).map fun _ => value).orElse fun _ => .success value afterValue

/-- Read one element or more, each with the separator after it, if there is one. -/
def separatedBy (parser : Parser α) (separator : Parser β) : Parser (List α) :=
  (element parser separator).many1

/-- Read separators with an element after each, but not more than `rounds` of them. -/
def moreWithin (parser : Parser α) (separator : Parser β) :
    (rounds : Nat) → Cursor → Outcome (List α)
  | 0, _ => .endless
  | rounds + 1, cursor =>
      match separator.parse cursor with
      | .failure _ => .success [] cursor
      | .endless => .endless
      | .success _ afterSeparator =>
          (parser.parse afterSeparator).andThen fun value next =>
            (moreWithin parser separator rounds next).map (value :: ·)

/-- Read one element or more, with a separator between each two. -/
def separatedList (parser : Parser α) (separator : Parser β) : Parser (List α) where
  parse cursor := (parser.parse cursor).andThen fun value next =>
    (moreWithin parser separator next.horizon next).map (value :: ·)

theorem parse_element (parser : Parser α) (separator : Parser β) (cursor : Cursor) :
    (element parser separator).parse cursor =
      (parser.parse cursor).andThen fun value afterValue =>
        ((separator.parse afterValue).map fun _ => value).orElse fun _ =>
          .success value afterValue := rfl

@[simp] theorem moreWithin_zero (parser : Parser α) (separator : Parser β) (cursor : Cursor) :
    moreWithin parser separator 0 cursor = .endless := rfl

theorem moreWithin_succ (parser : Parser α) (separator : Parser β) (rounds : Nat)
    (cursor : Cursor) :
    moreWithin parser separator (rounds + 1) cursor =
      match separator.parse cursor with
      | .failure _ => .success [] cursor
      | .endless => .endless
      | .success _ afterSeparator =>
          (parser.parse afterSeparator).andThen fun value next =>
            (moreWithin parser separator rounds next).map (value :: ·) := rfl

theorem parse_separatedList (parser : Parser α) (separator : Parser β) (cursor : Cursor) :
    (separatedList parser separator).parse cursor =
      (parser.parse cursor).andThen fun value next =>
        (moreWithin parser separator next.horizon next).map (value :: ·) := rfl

end Parser

end TextGrammar
