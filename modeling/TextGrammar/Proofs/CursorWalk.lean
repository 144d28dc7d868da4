import Mathlib.Data.String.Basic
import TextGrammar.Cursor

/-!
Contract: the walk of a cursor, against the bytes of the text.

Owns:
- the offset of a cursor as the size of what it has passed, which is a boundary between characters;
- that form, text and offset determine a cursor, and the text and the offset alone one that is well
  formed;
- `Cursor.at?` as the inverse of these views, defined exactly on the boundaries;
- how many steps lead to the end, and what the offsets do on the way.

A cursor keeps characters, so nothing in it can split one. What has to be shown is that the bytes
agree: that the offsets it shows are the places where a text may be cut, and that each such place is
shown by one cursor only.
-/

namespace TextGrammar

/-- A list of characters is cut in one way at a given size in bytes. -/
theorem eq_of_append_eq_of_utf8Len_eq {left right leftRest rightRest : List Char}
    (same : left ++ leftRest = right ++ rightRest)
    (sizeEq : String.utf8Len left = String.utf8Len right) :
    left = right ∧ leftRest = rightRest := by
  rcases List.append_eq_append_iff.mp same with ⟨more, rfl, rfl⟩ | ⟨more, rfl, rfl⟩
  · rw [String.utf8Len_append, Nat.left_eq_add, String.utf8Len_eq_zero] at sizeEq
    rw [sizeEq, List.append_nil, List.nil_append]
    exact ⟨rfl, rfl⟩
  · rw [String.utf8Len_append, Nat.add_eq_left, String.utf8Len_eq_zero] at sizeEq
    rw [sizeEq, List.append_nil, List.nil_append]
    exact ⟨rfl, rfl⟩

namespace Cursor

/-! ### The views of a cursor -/

section Views

variable {cursor left right : Cursor} {text : String}

theorem source_eq_iff : cursor.source = text ↔ cursor.sourceChars = text.toList := by
  rw [source, ← String.toList_inj, String.toList_ofList]

theorem position_eq_utf8Len (cursor : Cursor) :
    cursor.position = String.utf8Len cursor.before.reverse :=
  String.utf8ByteSize_ofList cursor.before.reverse

/-- A cursor stands where its text may be cut. -/
theorem isValid_position (cursor : Cursor) :
    String.Pos.Raw.IsValid cursor.source ⟨cursor.position⟩ := by
  rw [String.Pos.Raw.isValid_iff_exists_append]
  exact ⟨String.ofList cursor.before.reverse, cursor.rest, String.ofList_append, rfl⟩

/-- In one text the offset tells what lies on the two sides. -/
theorem sides_eq_of_position_eq (sourceEq : left.source = right.source)
    (positionEq : left.position = right.position) :
    left.before = right.before ∧ left.unread = right.unread := by
  have charactersEq : left.sourceChars = right.sourceChars := String.ofList_injective sourceEq
  rw [position_eq_utf8Len, position_eq_utf8Len] at positionEq
  obtain ⟨beforeEq, unreadEq⟩ := eq_of_append_eq_of_utf8Len_eq charactersEq positionEq
  exact ⟨List.reverse_inj.mp beforeEq, unreadEq⟩

/-- A cursor is determined by its form, its text and its offset. -/
theorem eq_iff_form_source_position :
    left = right ↔
      left.isAtEnd = right.isAtEnd ∧ left.source = right.source ∧
        left.position = right.position := by
  refine ⟨fun same => same ▸ ⟨rfl, rfl, rfl⟩, fun ⟨formEq, sourceEq, positionEq⟩ => ?_⟩
  obtain ⟨beforeEq, unreadEq⟩ := sides_eq_of_position_eq sourceEq positionEq
  cases left with
  | inside passed ahead =>
      cases right with
      | inside otherPassed otherAhead =>
          obtain rfl : passed = otherPassed := beforeEq
          obtain rfl : ahead = otherAhead := unreadEq
          rfl
      | atEnd otherPassed => contradiction
  | atEnd passed =>
      cases right with
      | inside otherPassed otherAhead => contradiction
      | atEnd otherPassed => exact congrArg atEnd beforeEq

/-- The form of a well formed cursor tells no more than what is left to read. -/
theorem WellFormed.eq_iff_position_eq (leftWellFormed : left.WellFormed)
    (rightWellFormed : right.WellFormed) (sourceEq : left.source = right.source) :
    left = right ↔ left.position = right.position := by
  refine ⟨congrArg position, fun positionEq => ?_⟩
  obtain ⟨_, unreadEq⟩ := sides_eq_of_position_eq sourceEq positionEq
  have formEq : left.isAtEnd = right.isAtEnd := by
    rw [Bool.eq_iff_iff, leftWellFormed.isAtEnd_iff, rightWellFormed.isAtEnd_iff, unreadEq]
  exact eq_iff_form_source_position.mpr ⟨formEq, sourceEq, positionEq⟩

theorem eq_endOf_iff : cursor = endOf text ↔ cursor.isAtEnd = true ∧ cursor.source = text := by
  rw [source_eq_iff]
  cases cursor with
  | inside passed ahead => simp [endOf, isAtEnd]
  | atEnd passed => simp [endOf, isAtEnd, sourceChars, List.reverse_eq_iff]

end Views

/-! ### The cursor at an offset -/

section AtOffset

variable {cursor : Cursor} {text : String} {offset : Nat}

/-- The bytes of a character are walked over at once. -/
theorem walk_cons (passed : List Char) (head : Char) (tail : List Char) (offset : Nat) :
    walk passed (head :: tail) (head.utf8Size + offset) = walk (head :: passed) tail offset := by
  have positive := head.utf8Size_pos
  cases sizeEq : head.utf8Size + offset with
  | zero => omega
  | succ size =>
      have fits : head.utf8Size ≤ size + 1 := by omega
      have offsetEq : size + 1 - head.utf8Size = offset := by omega
      rw [walk, if_pos fits, offsetEq]

theorem walk_append (passed skipped rest : List Char) :
    walk passed (skipped ++ rest) (String.utf8Len skipped) =
      some (.inside (skipped.reverse ++ passed) rest) := by
  induction skipped generalizing passed with
  | nil =>
      rw [String.utf8Len_nil, walk]
      rfl
  | cons head tail inductionHypothesis =>
      rw [String.utf8Len_cons, Nat.add_comm, List.cons_append, walk_cons, inductionHypothesis,
        List.reverse_cons, List.append_assoc, List.singleton_append]

/-- What has been walked over took up the bytes exactly. -/
theorem exists_append_of_walk {passed ahead : List Char}
    (found : walk passed ahead offset = some cursor) :
    ∃ skipped rest, ahead = skipped ++ rest ∧ String.utf8Len skipped = offset ∧
      cursor = .inside (skipped.reverse ++ passed) rest := by
  fun_induction walk passed ahead offset with
  | case1 passed ahead =>
      cases found
      exact ⟨[], ahead, rfl, rfl, rfl⟩
  | case2 passed offset => contradiction
  | case3 passed head tail offset fits inductionHypothesis =>
      obtain ⟨skipped, rest, rfl, sizeEq, rfl⟩ := inductionHypothesis found
      refine ⟨head :: skipped, rest, rfl, ?_, ?_⟩
      · rw [String.utf8Len_cons, sizeEq, Nat.sub_add_cancel fits]
      · rw [List.reverse_cons, List.append_assoc, List.singleton_append]
  | case4 passed head tail offset tooWide => contradiction

/-- The cursor found at an offset is the one inside the text that shows this offset. -/
theorem at?_eq_some_iff :
    at? text offset = some cursor ↔
      cursor.isAtEnd = false ∧ cursor.source = text ∧ cursor.position = offset := by
  rw [source_eq_iff]
  constructor
  · intro found
    obtain ⟨skipped, rest, textEq, rfl, rfl⟩ := exists_append_of_walk found
    simp [isAtEnd, sourceChars, position_eq_utf8Len, textEq]
  · rintro ⟨notAtEnd, textEq, rfl⟩
    cases cursor with
    | atEnd passed => contradiction
    | inside passed ahead =>
        have walked := walk_append [] passed.reverse ahead
        rw [List.reverse_reverse, List.append_nil] at walked
        rw [at?, ← textEq, position_eq_utf8Len]
        exact walked

/-- There is a cursor at an offset exactly if the text may be cut there. -/
theorem isSome_at?_iff :
    (at? text offset).isSome = true ↔ String.Pos.Raw.IsValid text ⟨offset⟩ := by
  rw [Option.isSome_iff_exists]
  constructor
  · rintro ⟨cursor, found⟩
    obtain ⟨_, rfl, rfl⟩ := at?_eq_some_iff.mp found
    exact cursor.isValid_position
  · intro valid
    obtain ⟨left, right, rfl, offsetEq⟩ := String.Pos.Raw.isValid_iff_exists_append.mp valid
    refine ⟨.inside left.toList.reverse right.toList, at?_eq_some_iff.mpr ⟨rfl, ?_, ?_⟩⟩
    · rw [source_eq_iff, sourceChars, before_inside, unread_inside, List.reverse_reverse,
        String.toList_append]
    · rw [position, before_inside, List.reverse_reverse, String.ofList_toList]
      exact (congrArg String.Pos.Raw.byteIdx offsetEq).symm

end AtOffset

/-! ### Steps -/

section Steps

variable {cursor : Cursor} {first second : Nat}

/-- The step that comes last may be taken apart instead of the first. -/
theorem advance_succ_eq_next (steps : Nat) (cursor : Cursor) :
    cursor.advance (steps + 1) = (cursor.advance steps).next :=
  advance_add steps 1 cursor

/-- A step leads to the end unless it leaves something to read. -/
theorem isAtEnd_next_iff (cursor : Cursor) :
    cursor.next.isAtEnd = true ↔ cursor.unread.length ≤ 1 := by
  fun_cases next cursor <;> simp [isAtEnd]

/-- From inside a text it takes a step for each character left, and one where none is left. -/
theorem isAtEnd_advance_iff (notAtEnd : cursor.isAtEnd = false) (steps : Nat) :
    (cursor.advance steps).isAtEnd = true ↔ max 1 cursor.unread.length ≤ steps := by
  cases steps with
  | zero => simp [notAtEnd]
  | succ steps =>
      rw [advance_succ_eq_next, isAtEnd_next_iff, unread_advance, List.length_drop]
      omega

/-- Every character that a step passes takes up a byte or more. -/
theorem position_advance_lt (ordered : first < second) (within : first < cursor.unread.length) :
    (cursor.advance first).position < (cursor.advance second).position := by
  have secondEq : cursor.advance second = (cursor.advance first).advance (second - first) := by
    rw [← advance_add, Nat.add_sub_cancel' (Nat.le_of_lt ordered)]
  have passes :
      (String.ofList ((cursor.advance first).unread.take (second - first))).utf8ByteSize ≠ 0 := by
    rw [String.utf8ByteSize_ofList, Ne, String.utf8Len_eq_zero, ← List.length_eq_zero_iff,
      List.length_take, unread_advance, List.length_drop]
    omega
  rw [secondEq, position_advance (second - first)]
  omega

/-- Wherever steps lead, it is the end of the text or the cursor at the offset it shows. -/
theorem advance_eq_endOf_or_at?_position (steps : Nat) (cursor : Cursor) :
    cursor.advance steps = endOf cursor.source ∨
      at? cursor.source (cursor.advance steps).position = some (cursor.advance steps) := by
  have sourceEq := source_advance steps cursor
  cases form : (cursor.advance steps).isAtEnd with
  | true => exact .inl (eq_endOf_iff.mpr ⟨form, sourceEq⟩)
  | false => exact .inr (at?_eq_some_iff.mpr ⟨form, sourceEq, rfl⟩)

end Steps

/-! ### From the start of a text -/

section FromStart

variable {text : String}

theorem wellFormed_advance_ofText (text : String) (steps : Nat) :
    ((ofText text).advance steps).WellFormed :=
  (wellFormed_ofChars text.toList).advance steps

theorem source_advance_ofText (text : String) (steps : Nat) :
    ((ofText text).advance steps).source = text := by
  rw [source_advance, source_ofText]

theorem isAtEnd_advance_ofText_iff (text : String) (steps : Nat) :
    ((ofText text).advance steps).isAtEnd = true ↔ text.length ≤ steps := by
  rw [(wellFormed_advance_ofText text steps).isAtEnd_iff, unread_advance, unread_ofText,
    List.drop_eq_nil_iff, String.length_toList]

theorem advance_ofText_of_length_le {steps : Nat} (passed : text.length ≤ steps) :
    (ofText text).advance steps = endOf text :=
  eq_endOf_iff.mpr
    ⟨(isAtEnd_advance_ofText_iff text steps).mpr passed, source_advance_ofText text steps⟩

end FromStart

/-- Steps from the start of a text pass its characters one by one: the cursor shows the text, what
is left of it, the bytes that were passed and the next character, and has the form of the end once
the text is used up. The offsets grow until then and stay, so they tell the cursors of the walk
apart. A cursor can be put inside the text at the offsets where the text may be cut and at no
others. Steps from there do not leave these offsets, and lead to the end with the last character,
or with the first step where none was left. -/
theorem walks_keep_to_boundaries (text : String) :
    (∀ steps,
      let cursor := (ofText text).advance steps
      cursor.source = text ∧
      cursor.rest = String.ofList (text.toList.drop (min steps text.length)) ∧
      cursor.position =
        (String.ofList (text.toList.take (min steps text.length))).utf8ByteSize ∧
      cursor.current = text.toList[steps]? ∧
      (cursor.isAtEnd = true ↔ text.length ≤ steps)) ∧
    (∀ first second, first < second → first < text.length →
      ((ofText text).advance first).position < ((ofText text).advance second).position) ∧
    (∀ steps, text.length ≤ steps → (ofText text).advance steps = endOf text) ∧
    (∀ first second, (ofText text).advance first = (ofText text).advance second ↔
      ((ofText text).advance first).position = ((ofText text).advance second).position) ∧
    (∀ offset, (at? text offset).isSome = true ↔ String.Pos.Raw.IsValid text ⟨offset⟩) ∧
    ∀ offset cursor, at? text offset = some cursor →
      cursor.isAtEnd = false ∧ cursor.source = text ∧ cursor.position = offset ∧
      (∀ steps,
        String.Pos.Raw.IsValid text ⟨(cursor.advance steps).position⟩ ∧
        (cursor.advance steps = endOf text ∨
          at? text (cursor.advance steps).position = some (cursor.advance steps))) ∧
      ∀ steps, (cursor.advance steps).isAtEnd = true ↔ max 1 cursor.rest.length ≤ steps := by
  refine ⟨fun steps => ⟨source_advance_ofText text steps, ?_, ?_, ?_, ?_⟩,
    fun first second ordered within => ?_, fun steps => advance_ofText_of_length_le,
    fun first second => ?_, fun offset => isSome_at?_iff, fun offset cursor found => ?_⟩
  · rw [rest, unread_advance, unread_ofText, ← String.length_toList, ← List.drop_eq_drop_min]
  · rw [position_advance, position_ofText, Nat.zero_add, unread_ofText, ← String.length_toList,
      ← List.take_eq_take_min]
  · rw [current, unread_advance, unread_ofText, List.head?_drop]
  · exact isAtEnd_advance_ofText_iff text steps
  · refine position_advance_lt ordered ?_
    rw [unread_ofText, String.length_toList]
    exact within
  · refine (wellFormed_advance_ofText text first).eq_iff_position_eq
      (wellFormed_advance_ofText text second) ?_
    rw [source_advance_ofText, source_advance_ofText]
  · obtain ⟨notAtEnd, rfl, rfl⟩ := at?_eq_some_iff.mp found
    refine ⟨notAtEnd, rfl, rfl, fun steps => ⟨?_, advance_eq_endOf_or_at?_position steps cursor⟩,
      fun steps => ?_⟩
    · rw [← source_advance steps cursor]
      exact isValid_position _
    · rw [rest, String.length_ofList]
      exact isAtEnd_advance_iff notAtEnd steps

/-- Characters of one, two and four bytes, walked from the start, from behind the first of them, and
from a cursor put behind the last. -/
theorem walks_over_characters_of_three_widths :
    (((ofText "aλ😀").advance 2).source = "aλ😀" ∧
      ((ofText "aλ😀").advance 2).rest = String.ofList ['😀'] ∧
      ((ofText "aλ😀").advance 2).position = (String.ofList ['a', 'λ']).utf8ByteSize ∧
      ((ofText "aλ😀").advance 2).current = some '😀') ∧
    (1 < 2 ∧ 1 < "aλ😀".length ∧
      ((ofText "aλ😀").advance 1).position < ((ofText "aλ😀").advance 2).position) ∧
    ("aλ😀".length ≤ 5 ∧ (ofText "aλ😀").advance 5 = endOf "aλ😀") ∧
    ¬ String.Pos.Raw.IsValid "aλ😀" ⟨2⟩ ∧
    (at? "aλ😀" 1 = some (.inside ['a'] ['λ', '😀']) ∧
      String.Pos.Raw.IsValid "aλ😀" ⟨3⟩ ∧
      ∀ steps, ((inside ['a'] ['λ', '😀']).advance steps).isAtEnd = true ↔ 2 ≤ steps) ∧
    at? "aλ😀" 7 = some (.inside ['😀', 'λ', 'a'] []) ∧
    ∀ steps, ((inside ['😀', 'λ', 'a'] []).advance steps).isAtEnd = true ↔ 1 ≤ steps := by
  obtain ⟨views, grows, ends, _, valid, fromInside⟩ := walks_keep_to_boundaries "aλ😀"
  obtain ⟨sourceEq, restEq, positionEq, currentEq, _⟩ := views 2
  have foundSecond : at? "aλ😀" 1 = some (.inside ['a'] ['λ', '😀']) := by decide
  have foundLast : at? "aλ😀" 7 = some (.inside ['😀', 'λ', 'a'] []) := by decide
  have splitsSecond : ¬ (at? "aλ😀" 2).isSome = true := by decide
  obtain ⟨_, _, _, keeps, endsSecond⟩ := fromInside 1 _ foundSecond
  obtain ⟨_, _, _, _, endsLast⟩ := fromInside 7 _ foundLast
  exact ⟨⟨sourceEq, restEq, positionEq, currentEq⟩,
    ⟨by decide, by decide, grows 1 2 (by decide) (by decide)⟩,
    ⟨by decide, ends 5 (by decide)⟩, fun cut => splitsSecond ((valid 2).mpr cut),
    ⟨foundSecond, (keeps 1).1, endsSecond⟩, foundLast, endsLast⟩

end Cursor

end TextGrammar
