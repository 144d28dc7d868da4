import TextGrammar.Parser.Sequence

/-!
Contract: a given text, read character by character.

Owns:
- `sharedBeginning`, the longest text that two texts begin with;
- the answer of `text`, decided by how much of the expected text stands at the cursor;
- that a text in two parts is read like the one part and then the other.

The characters are compared one by one, so the failure is that of the first one which differs, or
of the one that is expected where nothing is left. What stands in front of it has been read and is
lost.
-/

namespace TextGrammar

/-- The longest text that both texts begin with. -/
def sharedBeginning : List Char → List Char → List Char
  | left :: lefts, right :: rights =>
      if left = right then left :: sharedBeginning lefts rights else []
  | _, _ => []

section SharedBeginning

variable {left right other : List Char}

@[simp] theorem sharedBeginning_nil_left (right : List Char) : sharedBeginning [] right = [] := rfl

@[simp] theorem sharedBeginning_nil_right (left : List Char) : sharedBeginning left [] = [] := by
  cases left <;> rfl

@[simp] theorem sharedBeginning_cons_cons (head : Char) (left right : List Char) :
    sharedBeginning (head :: left) (head :: right) = head :: sharedBeginning left right :=
  if_pos rfl

theorem sharedBeginning_of_head?_ne {head : Char} (different : right.head? ≠ some head)
    (left : List Char) : sharedBeginning (head :: left) right = [] := by
  cases right with
  | nil => rfl
  | cons first right =>
      rw [List.head?_cons, Ne, Option.some.injEq, eq_comm] at different
      exact if_neg different

theorem sharedBeginning_prefix_left (left right : List Char) :
    sharedBeginning left right <+: left := by
  fun_induction sharedBeginning left right with
  | case1 head left right inductionHypothesis =>
      exact List.cons_prefix_cons.mpr ⟨rfl, inductionHypothesis⟩
  | case2 => exact List.nil_prefix
  | case3 => exact List.nil_prefix

theorem sharedBeginning_prefix_right (left right : List Char) :
    sharedBeginning left right <+: right := by
  fun_induction sharedBeginning left right with
  | case1 head left right inductionHypothesis =>
      exact List.cons_prefix_cons.mpr ⟨rfl, inductionHypothesis⟩
  | case2 => exact List.nil_prefix
  | case3 => exact List.nil_prefix

/-- Every text that both begin with is a beginning of the shared one. -/
theorem prefix_sharedBeginning (ofLeft : other <+: left) (ofRight : other <+: right) :
    other <+: sharedBeginning left right := by
  induction other generalizing left right with
  | nil => exact List.nil_prefix
  | cons head other inductionHypothesis =>
      obtain ⟨left, rfl, ofLefts⟩ := List.cons_prefix_iff.mp ofLeft
      obtain ⟨right, rfl, ofRights⟩ := List.cons_prefix_iff.mp ofRight
      rw [sharedBeginning_cons_cons]
      exact List.cons_prefix_cons.mpr ⟨rfl, inductionHypothesis ofLefts ofRights⟩

theorem length_le_sharedBeginning (ofLeft : other <+: left) (ofRight : other <+: right) :
    other.length ≤ (sharedBeginning left right).length :=
  (prefix_sharedBeginning ofLeft ofRight).length_le

/-- After the shared beginning the texts part. -/
theorem getElem?_sharedBeginning_ne {next : Char}
    (ofLeft : left[(sharedBeginning left right).length]? = some next) :
    right[(sharedBeginning left right).length]? ≠ some next := by
  fun_induction sharedBeginning left right with
  | case1 head left right inductionHypothesis => exact inductionHypothesis ofLeft
  | case2 leftHead left rightHead right different =>
      intro ofRight
      rw [List.length_nil, List.getElem?_cons_zero] at ofLeft ofRight
      exact different (Option.some.inj (ofLeft.trans ofRight.symm))
  | case3 left right ended =>
      intro ofRight
      obtain ⟨leftTail, rfl⟩ := List.head?_eq_some_iff.mp (List.head?_eq_getElem?.trans ofLeft)
      obtain ⟨rightTail, rfl⟩ := List.head?_eq_some_iff.mp (List.head?_eq_getElem?.trans ofRight)
      exact ended next leftTail next rightTail rfl rfl

end SharedBeginning

namespace Parser

/-! ### What stands at the cursor -/

/-- The run goes as far as the texts agree, and there the next character is missing or all have been
read. By induction on the expected text, which both the run and the shared beginning take apart. -/
theorem parse_sequence_map_char (expected : List Char) (cursor : Cursor) :
    (sequence (expected.map char)).parse cursor =
      match expected[(sharedBeginning expected cursor.unread).length]? with
      | none => .success expected
          (cursor.advance (sharedBeginning expected cursor.unread).length)
      | some missing => .failure (.charMismatch missing
          cursor.unread[(sharedBeginning expected cursor.unread).length]?) := by
  induction expected generalizing cursor with
  | nil => rfl
  | cons head tail inductionHypothesis =>
      rw [List.map_cons, parse_sequence_cons]
      by_cases found : cursor.current = some head
      · obtain ⟨rest, unreadEq⟩ := Cursor.exists_unread_of_current found
        rw [parse_char_of_current found, Outcome.success_andThen, inductionHypothesis,
          Cursor.unread_next_of_unread unreadEq, unreadEq, sharedBeginning_cons_cons,
          List.length_cons, List.getElem?_cons_succ, List.getElem?_cons_succ, Cursor.advance_succ]
        cases tail[(sharedBeginning tail rest).length]? with
        | none => rfl
        | some missing => rfl
      · rw [parse_char_of_ne found, Outcome.failure_andThen, sharedBeginning_of_head?_ne found,
          List.length_nil, List.getElem?_cons_zero, ← List.head?_eq_getElem?]
        rfl

theorem parse_text (expected : String) (cursor : Cursor) :
    (text expected).parse cursor =
      match expected.toList[(sharedBeginning expected.toList cursor.unread).length]? with
      | none => .success expected
          (cursor.advance (sharedBeginning expected.toList cursor.unread).length)
      | some missing => .failure (.charMismatch missing
          cursor.unread[(sharedBeginning expected.toList cursor.unread).length]?) := by
  rw [text, parse_map, parse_sequence_map_char]
  split
  · rw [Outcome.map_success, String.ofList_toList]
  · rfl

/-! ### A text in two parts -/

theorem parse_text_append (first second : String) (cursor : Cursor) :
    (text (first ++ second)).parse cursor =
      (((text first).both (text second)).map fun read => read.1 ++ read.2).parse cursor := by
  simp only [text, String.toList_append, List.map_append, parse_map, parse_both,
    parse_sequence_append, Outcome.map_eq_andThen, Outcome.andThen_assoc, Outcome.success_andThen,
    String.ofList_append]

/-- What the expected text shares with the text ahead decides the answer. Where that is all of it,
it is read, in as many steps as it has characters. Where it is less, the character after it is
missing, and the message shows it together with the one that stands in its place, or with none where
the text ends. A text in two parts is read like the first part and then the second, the failures
included. -/
theorem text_decided_by_sharedBeginning :
    (∀ (expected : String) (cursor : Cursor),
      let shared := sharedBeginning expected.toList cursor.unread
      shared <+: expected.toList ∧ shared <+: cursor.unread ∧
      (∀ other, other <+: expected.toList → other <+: cursor.unread →
        other.length ≤ shared.length) ∧
      (shared.length = expected.length → (text expected).parse cursor =
        .success expected (cursor.advance shared.length)) ∧
      (shared.length ≠ expected.length →
        ∃ missing, expected.toList[shared.length]? = some missing ∧
          cursor.unread[shared.length]? ≠ some missing ∧
          (text expected).parse cursor = .failure ⟨.matchMismatch,
            "expected '" ++ String.singleton missing ++ "' got '" ++
              Failure.foundText cursor.unread[shared.length]? ++ "'", .matchChar⟩)) ∧
    ∀ (first second : String) (cursor : Cursor),
      (text (first ++ second)).parse cursor =
        (((text first).both (text second)).map fun read => read.1 ++ read.2).parse cursor := by
  refine ⟨fun expected cursor => ?_, parse_text_append⟩
  intro shared
  have notLonger : shared.length ≤ expected.length := by
    rw [← String.length_toList]
    exact (sharedBeginning_prefix_left _ _).length_le
  refine ⟨sharedBeginning_prefix_left _ _, sharedBeginning_prefix_right _ _,
    fun other => length_le_sharedBeginning, fun whole => ?_, fun short => ?_⟩
  · have nothing : expected.toList[shared.length]? = none := by
      refine List.getElem?_eq_none_iff.mpr (Nat.le_of_eq ?_)
      rw [String.length_toList, whole]
    rw [parse_text, nothing]
  · have within : shared.length < expected.toList.length := by
      rw [String.length_toList]
      omega
    have missingEq := List.getElem?_eq_getElem within
    refine ⟨_, missingEq, getElem?_sharedBeginning_ne missingEq, ?_⟩
    rw [parse_text, missingEq]
    rfl

/-- A greeting of wide characters, a word that differs in its last character, and one that is cut
off before it. -/
theorem text_of_greetings :
    (text "こんにちは").parse (Cursor.ofText "こんにちは世界") =
      .success "こんにちは" ((Cursor.ofText "こんにちは世界").advance 5) ∧
    (((text "hel").both (text "lo")).map fun read => read.1 ++ read.2).parse
        (Cursor.ofText "helmet") =
      .failure ⟨.matchMismatch, "expected 'l' got 'm'", .matchChar⟩ ∧
    (text "été").parse (Cursor.ofText "ét") =
      .failure ⟨.matchMismatch, "expected 'é' got ''", .matchChar⟩ ∧
    ("hel".toList <+: "hello".toList ∧ "hel".toList <+: (Cursor.ofText "helmet").unread ∧
      "hel".toList.length ≤
        (sharedBeginning "hello".toList (Cursor.ofText "helmet").unread).length) := by
  obtain ⟨answers, inParts⟩ := text_decided_by_sharedBeginning
  obtain ⟨_, _, _, whole, _⟩ := answers "こんにちは" (Cursor.ofText "こんにちは世界")
  obtain ⟨_, _, longest, _, replaced⟩ := answers "hello" (Cursor.ofText "helmet")
  obtain ⟨_, _, _, _, cutOff⟩ := answers "été" (Cursor.ofText "ét")
  obtain ⟨replacedBy, replacedEq, _, replacedFailure⟩ := replaced (by decide)
  obtain ⟨cutAt, cutEq, _, cutFailure⟩ := cutOff (by decide)
  cases replacedEq
  cases cutEq
  refine ⟨whole (by decide), ?_, cutFailure, by decide, by decide,
    longest _ (by decide) (by decide)⟩
  rw [← inParts]
  exact replacedFailure

end Parser

end TextGrammar
