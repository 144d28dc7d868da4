import TextGrammar.Grammar.Derived
import TextGrammar.Proofs.Grammar.Tracking

/-!
Contract: where the runs of a grammar stop, and what they depend on.

Owns:
- that a success stands some steps ahead in the same text, and what this says of its position;
- `Outcome.Alike`, the same answer at two places, and that grammars answer alike wherever the same
  text is unread.

Both hold of every grammar and of any rules, to whatever depth the rules call one another. The
parser of a grammar under finitely many rules, which call one another without bound, is the case
that `Rulebook.parser_eq_parserWithin` names.
-/

namespace TextGrammar

variable {Rule : Type} {Values : Rule → Type} {α : Type}

namespace Outcome

/-- The runs at `left` and `right` have the same answer: the same failure, or the same value with
the same text left over and as many bytes passed. Or neither of them returns. -/
def Alike (left right : Cursor) : Outcome α → Outcome α → Prop
  | .success value leftNext, .success other rightNext =>
      value = other ∧ leftNext.unread = rightNext.unread ∧
        ∃ bytes, leftNext.position = left.position + bytes ∧
          rightNext.position = right.position + bytes
  | .failure reason, .failure other => reason = other
  | .endless, .endless => True
  | _, _ => False

/-- Outcomes that track each other both ways are alike: an endless run can only be tracked back by
one that is endless too. -/
theorem Tracks.alike {left right : Cursor} {outcome other : Outcome α}
    (same : left.unread = right.unread) (forth : Tracks left right outcome other)
    (back : Tracks right left other outcome) :
    Alike left right outcome other := by
  cases forth with
  | success value steps within =>
      refine ⟨rfl, ?_, (String.ofList (left.unread.take steps)).utf8ByteSize, ?_, ?_⟩
      · rw [Cursor.unread_advance, Cursor.unread_advance, same]
      · exact Cursor.position_advance steps left
      · rw [Cursor.position_advance, same]
  | failure reason => exact rfl
  | endless =>
      cases back with
      | endless => trivial

end Outcome

namespace Rulebook

/-- A success stands no more steps ahead than there are characters to read. So it stands in the same
text, past the characters of those steps and the bytes they take, and a cursor that began with a
character under it, or at the end, is still such a cursor. -/
theorem success_stands_steps_ahead (rulebook : Rulebook Values) (depth : Nat → Nat)
    (grammar : Grammar Values α) {cursor next : Cursor} {value : α}
    (read : (rulebook.parserWithin depth grammar).parse cursor = .success value next) :
    (∃ steps, steps ≤ cursor.unread.length ∧ next = cursor.advance steps ∧
      next.source = cursor.source ∧ next.unread = cursor.unread.drop steps ∧
      next.position =
        cursor.position + (String.ofList (cursor.unread.take steps)).utf8ByteSize) ∧
    (cursor.WellFormed → next.WellFormed) ∧
    ∀ text, cursor = Cursor.ofText text → (next.isAtEnd = true ↔ next.unread = []) := by
  -- At one cursor the relation between two runs says how far ahead a success stands.
  have tracks := rulebook.parserWithin_tracks depth grammar cursor.unread cursor cursor
    (List.suffix_refl _) rfl
  rw [read] at tracks
  cases tracks with
  | success _ steps within =>
      refine ⟨⟨steps, within, rfl, ?_, ?_, ?_⟩, fun wellFormed => wellFormed.advance steps, ?_⟩
      · exact Cursor.source_advance steps cursor
      · exact Cursor.unread_advance steps cursor
      · exact Cursor.position_advance steps cursor
      · rintro text rfl
        exact ((Cursor.wellFormed_ofChars text.toList).advance steps).isAtEnd_iff

/-- A rule that calls itself after each letter of two bytes, run inside a text and at its start. -/
theorem success_stands_after_letters_of_two_bytes :
    let rulebook : Rulebook fun _ : Fin 1 => Nat :=
      ⟨fun _ => .orElse (.map (· + 1) (.second (.char 'λ') (.rule 0))) (.succeed 0)⟩
    let cursor := Cursor.inside ['a'] ['λ', 'λ', '.']
    (∃ next, (rulebook.parser (.rule 0)).parse cursor = .success 2 next ∧
      (∃ steps, steps ≤ 3 ∧ next = cursor.advance steps ∧ next.source = "aλλ." ∧
        next.unread = ['λ', 'λ', '.'].drop steps ∧
        next.position = 1 + (String.ofList (['λ', 'λ', '.'].take steps)).utf8ByteSize) ∧
      next.WellFormed) ∧
    ∃ next, (rulebook.parser (.rule 0)).parse (Cursor.ofText "λ") = .success 1 next ∧
      (next.isAtEnd = true ↔ next.unread = []) := by
  intro rulebook cursor
  have readInside : (rulebook.parserWithin (1 * ·) (.rule 0)).parse cursor =
      .success 2 (.inside ['λ', 'λ', 'a'] ['.']) := by rfl
  have readAll : (rulebook.parserWithin (1 * ·) (.rule 0)).parse (Cursor.ofText "λ") =
      .success 1 (.atEnd ['λ']) := by rfl
  obtain ⟨ahead, wellFormed, _⟩ := rulebook.success_stands_steps_ahead (1 * ·) (.rule 0) readInside
  obtain ⟨_, _, atEndIff⟩ := rulebook.success_stands_steps_ahead (1 * ·) (.rule 0) readAll
  exact ⟨⟨_, readInside, ahead, wellFormed (List.cons_ne_nil _ _)⟩, _, readAll, atEndIff "λ" rfl⟩

/-- What a grammar answers depends on the unread text only, whatever has been passed and whichever
form the end of the text has. So after some steps into a text it answers what it answers on the
rest of the text alone. -/
theorem answers_alike_where_same_unread (rulebook : Rulebook Values) (depth : Nat → Nat)
    (grammar : Grammar Values α) :
    (∀ left right : Cursor, left.unread = right.unread →
      Outcome.Alike left right ((rulebook.parserWithin depth grammar).parse left)
        ((rulebook.parserWithin depth grammar).parse right)) ∧
    ∀ (text : String) (steps : Nat),
      Outcome.Alike ((Cursor.ofText text).advance steps)
        (Cursor.ofChars (text.toList.drop steps))
        ((rulebook.parserWithin depth grammar).parse ((Cursor.ofText text).advance steps))
        ((rulebook.parserWithin depth grammar).parse
          (Cursor.ofChars (text.toList.drop steps))) := by
  have alike : ∀ left right : Cursor, left.unread = right.unread →
      Outcome.Alike left right ((rulebook.parserWithin depth grammar).parse left)
        ((rulebook.parserWithin depth grammar).parse right) := by
    intro left right same
    have tracks := rulebook.parserWithin_tracks depth grammar left.unread
    have rightSuffix : right.unread <:+ left.unread := same ▸ List.suffix_refl _
    exact (tracks left right (List.suffix_refl _) same).alike same
      (tracks right left rightSuffix same.symm)
  refine ⟨alike, fun text steps => alike _ _ ?_⟩
  rw [Cursor.unread_advance, Cursor.unread_ofText, Cursor.unread_ofChars]

/-- The same rule before the same letter in two texts, and at the two forms of an end. -/
theorem answers_alike_in_two_texts :
    let rulebook : Rulebook fun _ : Fin 1 => Nat :=
      ⟨fun _ => .orElse (.map (· + 1) (.second (.char 'λ') (.rule 0))) (.succeed 0)⟩
    let answer := (rulebook.parser (.rule 0)).parse
    Outcome.Alike (.inside ['a'] ['λ']) (.inside [] ['λ'])
      (answer (.inside ['a'] ['λ'])) (answer (.inside [] ['λ'])) ∧
    Outcome.Alike (.inside ['a'] []) (.atEnd ['b', 'c'])
      (answer (.inside ['a'] [])) (answer (.atEnd ['b', 'c'])) := by
  intro rulebook answer
  have alike := (rulebook.answers_alike_where_same_unread (1 * ·) (.rule 0)).1
  exact ⟨alike (.inside ['a'] ['λ']) (.inside [] ['λ']) rfl,
    alike (.inside ['a'] []) (.atEnd ['b', 'c']) rfl⟩

end Rulebook

end TextGrammar
