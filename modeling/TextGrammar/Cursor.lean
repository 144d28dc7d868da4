/-!
Contract: cursors, the places in a text that parsers are run at.

Owns:
- the two forms of a cursor and the walk through a text by `next`;
- the views `source`, `rest`, `position`, `current` and `isAtEnd`;
- `Cursor.at?`, which finds the cursor at a byte offset, if a character starts there;
- `Cursor.horizon`, the bound on how many cursors lie ahead of one.

A cursor keeps the characters on its two sides, so it can only stand between characters: the byte
offset is a view of what lies before it, and walking adjusts nothing else.
-/

namespace TextGrammar

/-- A place in a text. `passed` holds the characters already read, the latest first, and `ahead`
those still to come.

A cursor `inside` normally has a character under it. One that was put at the very end by its
offset has none, and differs from the cursor `atEnd` of the same text. -/
inductive Cursor where
  | inside (passed ahead : List Char)
  | atEnd (passed : List Char)
deriving DecidableEq, Repr

namespace Cursor

/-- The cursor at the start of a text; the start of an empty text is its end. -/
def ofChars : List Char → Cursor
  | [] => .atEnd []
  | head :: tail => .inside [] (head :: tail)

/-- The cursor at the start of `text`. -/
def ofText (text : String) : Cursor :=
  ofChars text.toList

/-- The cursor at the end of `text`. -/
def endOf (text : String) : Cursor :=
  .atEnd text.toList.reverse

/-- The characters already read, the latest first. -/
def before : Cursor → List Char
  | .inside passed _ => passed
  | .atEnd passed => passed

/-- The characters not yet read. -/
def unread : Cursor → List Char
  | .inside _ ahead => ahead
  | .atEnd _ => []

/-- The character under the cursor, if any is left. -/
def current (cursor : Cursor) : Option Char :=
  cursor.unread.head?

/-- Whether the cursor has the form of the end. -/
def isAtEnd : Cursor → Bool
  | .inside _ _ => false
  | .atEnd _ => true

/-- The offset of the cursor in bytes: the size of the text it has passed. -/
def position (cursor : Cursor) : Nat :=
  (String.ofList cursor.before.reverse).utf8ByteSize

/-- The characters of the whole text. -/
def sourceChars (cursor : Cursor) : List Char :=
  cursor.before.reverse ++ cursor.unread

/-- The whole text. -/
def source (cursor : Cursor) : String :=
  String.ofList cursor.sourceChars

/-- The text not yet read. -/
def rest (cursor : Cursor) : String :=
  String.ofList cursor.unread

/-- The next place. Passing the last character leads to the end, and so does a step from a cursor
inside that has nothing left; the end stays where it is. -/
def next : Cursor → Cursor
  | .inside passed [] => .atEnd passed
  | .inside passed [last] => .atEnd (last :: passed)
  | .inside passed (head :: following :: tail) => .inside (head :: passed) (following :: tail)
  | .atEnd passed => .atEnd passed

/-- The place after `steps` steps. -/
def advance : Nat → Cursor → Cursor
  | 0, cursor => cursor
  | steps + 1, cursor => advance steps cursor.next

/-- Walk `offset` bytes into `ahead`, if a character ends there. -/
def walk (passed : List Char) : List Char → Nat → Option Cursor
  | ahead, 0 => some (.inside passed ahead)
  | [], _ + 1 => none
  | head :: tail, offset + 1 =>
      if head.utf8Size ≤ offset + 1 then
        walk (head :: passed) tail (offset + 1 - head.utf8Size)
      else
        none

/-- The cursor inside `text` at a byte offset, the length of the text included, if a character
starts or the text ends there. -/
def at? (text : String) (offset : Nat) : Option Cursor :=
  walk [] text.toList offset

/-- A bound on the places that steps from the cursor can reach, its own included. Whoever runs
this often, each time from where the last run stopped and never moving back, has begun two runs at
one place or stands where the last of them began. -/
def horizon (cursor : Cursor) : Nat :=
  cursor.unread.length + 2

/-- A cursor inside has a character under it. Cursors made by `ofText` and moved by `next` keep
this; `at?` breaks it at the length of the text. -/
def WellFormed : Cursor → Prop
  | .inside _ ahead => ahead ≠ []
  | .atEnd _ => True

@[simp] theorem unread_inside (passed ahead : List Char) :
    (inside passed ahead).unread = ahead := rfl

@[simp] theorem unread_atEnd (passed : List Char) : (atEnd passed).unread = [] := rfl

@[simp] theorem before_inside (passed ahead : List Char) :
    (inside passed ahead).before = passed := rfl

@[simp] theorem before_atEnd (passed : List Char) : (atEnd passed).before = passed := rfl

@[simp] theorem unread_ofChars (characters : List Char) :
    (ofChars characters).unread = characters := by
  cases characters <;> rfl

@[simp] theorem unread_ofText (text : String) : (ofText text).unread = text.toList :=
  unread_ofChars text.toList

@[simp] theorem before_ofChars (characters : List Char) : (ofChars characters).before = [] := by
  cases characters <;> rfl

@[simp] theorem position_ofText (text : String) : (ofText text).position = 0 := by
  simp [position, ofText]

@[simp] theorem source_ofText (text : String) : (ofText text).source = text := by
  simp [source, sourceChars, ofText]

theorem wellFormed_ofChars (characters : List Char) : (ofChars characters).WellFormed := by
  cases characters <;> simp [ofChars, WellFormed]

@[simp] theorem unread_next (cursor : Cursor) : cursor.next.unread = cursor.unread.tail := by
  fun_cases next cursor <;> rfl

@[simp] theorem sourceChars_next (cursor : Cursor) :
    cursor.next.sourceChars = cursor.sourceChars := by
  fun_cases next cursor <;> simp [sourceChars]

@[simp] theorem source_next (cursor : Cursor) : cursor.next.source = cursor.source := by
  simp [source]

theorem wellFormed_next (cursor : Cursor) : cursor.next.WellFormed := by
  fun_cases next cursor <;> simp [WellFormed]

theorem exists_unread_of_current {cursor : Cursor} {head : Char}
    (found : cursor.current = some head) : ∃ tail, cursor.unread = head :: tail :=
  List.head?_eq_some_iff.mp found

theorem current_of_unread {cursor : Cursor} {head : Char} {tail : List Char}
    (unreadEq : cursor.unread = head :: tail) : cursor.current = some head := by
  rw [current, unreadEq, List.head?_cons]

theorem unread_next_of_unread {cursor : Cursor} {head : Char} {tail : List Char}
    (unreadEq : cursor.unread = head :: tail) : cursor.next.unread = tail := by
  rw [unread_next, unreadEq, List.tail_cons]

/-- A step passes the character under the cursor, if there is one. -/
theorem before_next (cursor : Cursor) :
    cursor.next.before = (cursor.unread.take 1).reverse ++ cursor.before := by
  fun_cases next cursor <;> rfl

theorem position_next_of_unread {cursor : Cursor} {head : Char} {tail : List Char}
    (unreadEq : cursor.unread = head :: tail) :
    cursor.next.position = cursor.position + head.utf8Size := by
  rw [position, before_next, unreadEq, List.take_succ_cons, List.take_zero, List.reverse_singleton,
    List.singleton_append, List.reverse_cons, String.ofList_append, String.utf8ByteSize_append,
    ← String.singleton_eq_ofList, String.utf8ByteSize_singleton, position]

/-- Where nothing is left to read, the position stays. -/
theorem position_next_of_nil {cursor : Cursor} (unreadEq : cursor.unread = []) :
    cursor.next.position = cursor.position := by
  rw [position, before_next, unreadEq, List.take_nil, List.reverse_nil, List.nil_append, position]

@[simp] theorem advance_zero (cursor : Cursor) : advance 0 cursor = cursor := rfl

theorem advance_succ (steps : Nat) (cursor : Cursor) :
    advance (steps + 1) cursor = advance steps cursor.next := rfl

theorem advance_add (first second : Nat) (cursor : Cursor) :
    advance (first + second) cursor = advance second (advance first cursor) := by
  induction first generalizing cursor with
  | zero => simp
  | succ first inductionHypothesis =>
      rw [Nat.succ_add, advance_succ, advance_succ, inductionHypothesis]

@[simp] theorem unread_advance (steps : Nat) (cursor : Cursor) :
    (advance steps cursor).unread = cursor.unread.drop steps := by
  induction steps generalizing cursor with
  | zero => simp
  | succ steps inductionHypothesis =>
      rw [advance_succ, inductionHypothesis, unread_next, List.drop_tail]

@[simp] theorem source_advance (steps : Nat) (cursor : Cursor) :
    (advance steps cursor).source = cursor.source := by
  induction steps generalizing cursor with
  | zero => rfl
  | succ steps inductionHypothesis => rw [advance_succ, inductionHypothesis, source_next]

/-- Steps pass the characters that stand there one by one. -/
theorem before_advance (steps : Nat) (cursor : Cursor) :
    (advance steps cursor).before = (cursor.unread.take steps).reverse ++ cursor.before := by
  induction steps generalizing cursor with
  | zero => simp
  | succ steps inductionHypothesis =>
      rw [advance_succ, inductionHypothesis, unread_next, before_next]
      cases cursor.unread <;> simp

/-- Steps take the position past the characters they pass. -/
theorem position_advance (steps : Nat) (cursor : Cursor) :
    (advance steps cursor).position =
      cursor.position + (String.ofList (cursor.unread.take steps)).utf8ByteSize := by
  rw [position, before_advance, List.reverse_append, List.reverse_reverse, String.ofList_append,
    String.utf8ByteSize_append, position]

theorem WellFormed.advance {cursor : Cursor} (wellFormed : cursor.WellFormed) (steps : Nat) :
    (cursor.advance steps).WellFormed := by
  induction steps generalizing cursor with
  | zero => exact wellFormed
  | succ steps inductionHypothesis => exact inductionHypothesis (wellFormed_next cursor)

theorem WellFormed.isAtEnd_iff {cursor : Cursor} (wellFormed : cursor.WellFormed) :
    cursor.isAtEnd = true ↔ cursor.unread = [] := by
  cases cursor with
  | inside passed ahead => simpa [isAtEnd, WellFormed] using wellFormed
  | atEnd passed => simp [isAtEnd]

end Cursor

end TextGrammar
