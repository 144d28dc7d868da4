import Mathlib.Logic.Function.Iterate
import TextGrammar.Proofs.CursorWalk

/-!
Contract: cursors that are given by a text and an offset in bytes.

Owns:
- `OffsetCursor`, which is a text with an offset into it, or the end of a text, and steps by adding
  sizes of characters to the offset;
- `Cursor.byOffset`, the cursor of that form which shows the same, and that steps keep the two
  together;
- that `Cursor.byOffset` reaches exactly the offsets where a text may be cut, each from one cursor.

Nothing in an offset says that a character starts there. A cursor that keeps characters cannot stand
anywhere else, so every walk by offsets that begins like one of its walks stays on boundaries.
-/

namespace TextGrammar

/-- A place in a text by its offset in bytes, or the end of a text. The offset may be any number,
one within a character or past the text included. -/
inductive OffsetCursor where
  | inside (text : String) (offset : Nat)
  | atEnd (text : String)
deriving DecidableEq, Repr

namespace OffsetCursor

/-- The start of a text; the start of an empty text is its end. -/
def ofText (text : String) : OffsetCursor :=
  if text.isEmpty then .atEnd text else .inside text 0

/-- The whole text. -/
def source : OffsetCursor → String
  | .inside text _ => text
  | .atEnd text => text

/-- The offset in bytes, at the end the size of the text. -/
def position : OffsetCursor → Nat
  | .inside _ offset => offset
  | .atEnd text => text.utf8ByteSize

/-- Whether the cursor has the form of the end. -/
def isAtEnd : OffsetCursor → Bool
  | .inside _ _ => false
  | .atEnd _ => true

/-- The text from the offset on. -/
def rest : OffsetCursor → String
  | .inside text offset => String.Pos.Raw.extract text ⟨offset⟩ text.rawEndPos
  | .atEnd _ => ""

/-- The character at the offset, if any is left. -/
def current (cursor : OffsetCursor) : Option Char :=
  cursor.rest.toList.head?

/-- Add the size of the character at the offset. An offset that is no longer within the text gives
the end, which stays where it is. -/
def next : OffsetCursor → OffsetCursor
  | .inside text offset =>
      let following := offset + (inside text offset).current.elim 0 Char.utf8Size
      if text.utf8ByteSize ≤ following then .atEnd text else .inside text following
  | .atEnd text => .atEnd text

/-- The text may be cut at the offset. -/
def OnBoundary (cursor : OffsetCursor) : Prop :=
  String.Pos.Raw.IsValid cursor.source ⟨cursor.position⟩

end OffsetCursor

namespace Cursor

/-- The cursor by its text and its offset. -/
def byOffset (cursor : Cursor) : OffsetCursor :=
  if cursor.isAtEnd then .atEnd cursor.source else .inside cursor.source cursor.position

/-! ### The same views -/

section Views

variable {cursor left right : Cursor} {text : String} {offset : Nat}

/-- The text takes up what has been passed and what is left. -/
theorem utf8ByteSize_source (cursor : Cursor) :
    cursor.source.utf8ByteSize = cursor.position + cursor.rest.utf8ByteSize := by
  rw [source, sourceChars, String.ofList_append, String.utf8ByteSize_append]
  rfl

theorem utf8ByteSize_source_le_position_iff :
    cursor.source.utf8ByteSize ≤ cursor.position ↔ cursor.unread = [] := by
  have emptyIff : cursor.rest.utf8ByteSize = 0 ↔ cursor.unread = [] := by
    rw [rest, String.utf8ByteSize_ofList, String.utf8Len_eq_zero]
  rw [utf8ByteSize_source, ← emptyIff]
  omega

@[simp] theorem source_byOffset (cursor : Cursor) : cursor.byOffset.source = cursor.source := by
  cases cursor <;> rfl

@[simp] theorem isAtEnd_byOffset (cursor : Cursor) : cursor.byOffset.isAtEnd = cursor.isAtEnd := by
  cases cursor <;> rfl

@[simp] theorem position_byOffset (cursor : Cursor) :
    cursor.byOffset.position = cursor.position := by
  cases cursor with
  | inside passed ahead => rfl
  | atEnd passed => exact utf8ByteSize_source (atEnd passed)

@[simp] theorem rest_byOffset (cursor : Cursor) : cursor.byOffset.rest = cursor.rest := by
  cases cursor with
  | inside passed ahead =>
      have cut := String.extract_of_valid passed.reverse ahead []
      rw [List.append_nil, ← String.utf8Len_append, ← String.rawEndPos_ofList,
        ← String.rawEndPos_ofList] at cut
      exact cut
  | atEnd passed => rfl

@[simp] theorem current_byOffset (cursor : Cursor) : cursor.byOffset.current = cursor.current := by
  rw [OffsetCursor.current, rest_byOffset, rest, String.toList_ofList, current]

theorem onBoundary_byOffset (cursor : Cursor) : cursor.byOffset.OnBoundary := by
  rw [OffsetCursor.OnBoundary, source_byOffset, position_byOffset]
  exact cursor.isValid_position

/-- Nothing is lost when the characters are given up for an offset. -/
theorem byOffset_inj : left.byOffset = right.byOffset ↔ left = right := by
  refine ⟨fun same => eq_iff_form_source_position.mpr ⟨?_, ?_, ?_⟩, congrArg byOffset⟩
  · rw [← isAtEnd_byOffset, same, isAtEnd_byOffset]
  · rw [← source_byOffset, same, source_byOffset]
  · rw [← position_byOffset, same, position_byOffset]

theorem byOffset_eq_inside_iff :
    cursor.byOffset = .inside text offset ↔ at? text offset = some cursor := by
  rw [at?_eq_some_iff]
  cases cursor <;> simp [byOffset, isAtEnd]

theorem byOffset_endOf (text : String) : (endOf text).byOffset = .atEnd text := by
  obtain ⟨form, sourceEq⟩ := eq_endOf_iff.mp (rfl : endOf text = endOf text)
  rw [byOffset, if_pos form, sourceEq]

/-- An offset stands for a cursor exactly if the text may be cut there. -/
theorem exists_byOffset_eq_iff {place : OffsetCursor} :
    (∃ cursor : Cursor, cursor.byOffset = place) ↔ place.OnBoundary := by
  refine ⟨fun ⟨cursor, shown⟩ => shown ▸ cursor.onBoundary_byOffset, fun boundary => ?_⟩
  cases place with
  | inside text offset =>
      obtain ⟨cursor, found⟩ := Option.isSome_iff_exists.mp (isSome_at?_iff.mpr boundary)
      exact ⟨cursor, byOffset_eq_inside_iff.mpr found⟩
  | atEnd text => exact ⟨endOf text, byOffset_endOf text⟩

end Views

/-! ### The same steps -/

theorem position_next (cursor : Cursor) :
    cursor.next.position = cursor.position + cursor.current.elim 0 Char.utf8Size := by
  cases unreadEq : cursor.unread with
  | nil => simp [position_next_of_nil unreadEq, current, unreadEq]
  | cons head tail => simp [position_next_of_unread unreadEq, current, unreadEq]

/-- A step leads to the end once the offset reaches the size of the text. -/
theorem isAtEnd_next_iff_utf8ByteSize_le (cursor : Cursor) :
    cursor.next.isAtEnd = true ↔ cursor.source.utf8ByteSize ≤ cursor.next.position := by
  rw [(wellFormed_next cursor).isAtEnd_iff, ← source_next cursor,
    utf8ByteSize_source_le_position_iff]

theorem byOffset_ofText (text : String) : (ofText text).byOffset = OffsetCursor.ofText text := by
  have endIff : (ofText text).isAtEnd = true ↔ text.isEmpty = true := by
    rw [ofText, (wellFormed_ofChars text.toList).isAtEnd_iff, unread_ofChars,
      String.toList_eq_nil_iff, String.isEmpty_iff]
  rw [byOffset, source_ofText, position_ofText, OffsetCursor.ofText]
  exact if_congr endIff rfl rfl

theorem byOffset_next (cursor : Cursor) : cursor.next.byOffset = cursor.byOffset.next := by
  cases cursor with
  | atEnd passed => rfl
  | inside passed ahead =>
      have endIff := isAtEnd_next_iff_utf8ByteSize_le (inside passed ahead)
      rw [position_next, ← current_byOffset] at endIff
      rw [byOffset, source_next, position_next, ← current_byOffset]
      exact if_congr endIff rfl rfl

theorem byOffset_advance (steps : Nat) (cursor : Cursor) :
    (cursor.advance steps).byOffset = OffsetCursor.next^[steps] cursor.byOffset := by
  induction steps generalizing cursor with
  | zero => rfl
  | succ steps inductionHypothesis =>
      rw [advance_succ, inductionHypothesis, byOffset_next, Function.iterate_succ_apply]

/-- The walk through a text by offsets is the walk by characters, whether it begins at the start or
at another place where the text may be cut. Both show the same at every step. From the start the
offsets are boundaries, and within the text until the walk has the form of the end. -/
theorem offsets_walk_as_characters (text : String) :
    (∀ steps,
      let cursor := (ofText text).advance steps
      let place := OffsetCursor.next^[steps] (OffsetCursor.ofText text)
      place = cursor.byOffset ∧
      (place.source = text ∧ place.rest = cursor.rest ∧ place.position = cursor.position ∧
        place.current = cursor.current ∧ place.isAtEnd = cursor.isAtEnd) ∧
      place.OnBoundary ∧ (place.isAtEnd = false → place.position < text.utf8ByteSize)) ∧
    ∀ offset cursor, at? text offset = some cursor → ∀ steps,
      OffsetCursor.next^[steps] (.inside text offset) = (cursor.advance steps).byOffset := by
  refine ⟨fun steps => ?_, fun offset cursor found steps => ?_⟩
  · intro cursor place
    have shown : place = cursor.byOffset := by
      rw [byOffset_advance, byOffset_ofText]
    have sourceEq : cursor.source = text := source_advance_ofText text steps
    rw [shown, source_byOffset, rest_byOffset, position_byOffset, current_byOffset,
      isAtEnd_byOffset]
    refine ⟨rfl, ⟨sourceEq, rfl, rfl, rfl, rfl⟩, cursor.onBoundary_byOffset, fun notAtEnd => ?_⟩
    rw [← sourceEq, ← Nat.not_le, utf8ByteSize_source_le_position_iff,
      ← (wellFormed_advance_ofText text steps).isAtEnd_iff]
    exact Bool.eq_false_iff.mp notAtEnd
  · rw [byOffset_advance, byOffset_eq_inside_iff.mpr found]

example : OffsetCursor.next^[2] (.ofText "aλ😀") = .inside "aλ😀" 3 := by decide

end Cursor

namespace OffsetCursor

/-- Wherever a walk by offsets begins, on a boundary it stays on boundaries. -/
theorem OnBoundary.iterate_next {place : OffsetCursor} (boundary : place.OnBoundary)
    (steps : Nat) : (next^[steps] place).OnBoundary := by
  obtain ⟨cursor, rfl⟩ := Cursor.exists_byOffset_eq_iff.mpr boundary
  rw [← Cursor.byOffset_advance]
  exact Cursor.onBoundary_byOffset _

end OffsetCursor

end TextGrammar
