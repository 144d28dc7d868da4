import TextGrammar.Grammar.Derived
import TextGrammar.Proofs.Failing
import TextGrammar.Proofs.Grammar.Tracking

/-!
Contract: what the failures of a grammar say.

Owns:
- `Failure.Arises`, the failures that the combinators make and the places they come from;
- that the parsers of grammars fail by no other cause, by induction on the grammar and on the depth
  of the calls of its rules;
- the kinds, origins and messages that this leaves.

A failure does not know its place. But a character that differs is made known by its message, so the
message is held against the characters ahead of the cursor that the run began at.
-/

namespace TextGrammar

/-- The failures that come from a cursor: another character than the expected one stands some steps
ahead, or a combinator refused what it was given. -/
inductive Failure.Arises (cursor : Cursor) : Failure → Prop where
  | mismatch (expected : Char) {steps : Nat} (within : steps ≤ cursor.unread.length)
      (different : (cursor.advance steps).current ≠ some expected) :
      Arises cursor (.charMismatch expected (cursor.advance steps).current)
  | noCharacter : Arises cursor .noCharacter
  | emptyRepetition : Arises cursor .emptyRepetition
  | refused (message : String) : Arises cursor (.refused message)
  | failed (message : String) : Arises cursor (.failed message)

/-- The kinds of failure, each with the combinators that raise it. -/
def Failure.origins : List (FailureKind × Combinator) :=
  [(.matchMismatch, .matchChar), (.matchMismatch, .anyChar), (.emptyRepetition, .many1),
    (.rejected, .filter), (.rejected, .fail)]

theorem Failure.Arises.mem_origins {cursor : Cursor} {reason : Failure}
    (arises : reason.Arises cursor) : (reason.kind, reason.origin) ∈ Failure.origins := by
  cases arises with
  | mismatch =>
      show (FailureKind.matchMismatch, Combinator.matchChar) ∈ Failure.origins
      decide
  | noCharacter => decide
  | emptyRepetition => decide
  | refused =>
      show (FailureKind.rejected, Combinator.filter) ∈ Failure.origins
      decide
  | failed =>
      show (FailureKind.rejected, Combinator.fail) ∈ Failure.origins
      decide

/-- The causes that the combinators have to fail. -/
def Causes.ofCombinators : Causes where
  arises := Failure.Arises
  carried := by
    intro cursor steps reason within arises
    cases arises with
    | mismatch expected moreWithin different =>
        rw [Cursor.unread_advance, List.length_drop] at moreWithin
        rw [← Cursor.advance_add] at different ⊢
        exact .mismatch expected (by omega) different
    | noCharacter => exact .noCharacter
    | emptyRepetition => exact .emptyRepetition
    | refused message => exact .refused message
    | failed message => exact .failed message

namespace Parser

theorem failsBy_char (expected : Char) : (char expected).FailsBy .ofCombinators := by
  refine failsBy_char_of_mismatch fun cursor different => ?_
  have arises : (Failure.charMismatch expected (cursor.advance 0).current).Arises cursor :=
    .mismatch expected (Nat.zero_le _) different
  exact arises

theorem failsBy_anyChar : anyChar.FailsBy .ofCombinators := by
  intro cursor reason failed
  cases found : cursor.current with
  | some character =>
      rw [parse_anyChar_of_current found] at failed
      contradiction
  | none =>
      rw [parse_anyChar_of_none found] at failed
      cases failed
      exact .noCharacter

end Parser

section Grammar

variable {Rule : Type} {Values : Rule → Type} {α : Type}

theorem Grammar.parser_failsBy {self : Parser.Family Values}
    (advances : ∀ {β : Type} (grammar : Grammar Values β), (grammar.parser self).Advances)
    (rules : ∀ rule, (self rule).FailsBy .ofCombinators) (grammar : Grammar Values α) :
    (grammar.parser self).FailsBy .ofCombinators := by
  induction grammar with
  | succeed value => exact (Parser.neverFails_succeed value).failsBy
  | fail message =>
      intro cursor reason failed
      cases failed
      exact .failed message
  | char expected => exact Parser.failsBy_char expected
  | anyChar => exact Parser.failsBy_anyChar
  | map f grammar inner => exact inner.map f
  | filter grammar accept message inner => exact inner.filter accept fun _ => .refused message
  | bind grammar next inner following => exact inner.bind (advances grammar) following
  | both left right leftInner rightInner => exact leftInner.both (advances left) rightInner
  | apply function argument functionInner argumentInner =>
      exact functionInner.apply (advances function) argumentInner
  | orElse preferred alternative preferredInner alternativeInner =>
      exact alternativeInner.orElse (preferred.parser self)
  | choice alternatives inner =>
      refine (inner 0).firstSuccess fun other member => ?_
      simp only [List.mem_cons, List.mem_ofFn] at member
      rcases member with rfl | ⟨index, rfl⟩
      · exact inner 1
      · exact inner index.succ.succ
  | optional grammar inner => exact (Parser.neverFails_optional _).failsBy
  | sequence items inner =>
      rw [parser, Parser.indexed_eq_sequence]
      refine Parser.FailsBy.sequence (fun item member => ?_) fun item member => ?_
      · obtain ⟨index, rfl⟩ := List.mem_ofFn.mp member
        exact inner index
      · obtain ⟨index, rfl⟩ := List.mem_ofFn.mp member
        exact advances (items index)
  | many grammar inner => exact (Parser.neverFails_many _).failsBy
  | many1 grammar inner => exact Parser.failsBy_many1 _ fun _ => .emptyRepetition
  | element grammar separator inner separatorInner => exact inner.element (separator.parser self)
  | separatedList grammar separator inner separatorInner =>
      exact inner.separatedList (advances grammar) (advances separator)
  | deferred build inner => exact inner ()
  | rule index => exact rules index

namespace Rulebook

theorem unfold_failsBy (rulebook : Rulebook Values) (depth : Nat) (rule : Rule) :
    (Parser.unfold rulebook.body depth rule).FailsBy .ofCombinators := by
  induction depth generalizing rule with
  | zero =>
      intro cursor reason failed
      contradiction
  | succ depth inductionHypothesis =>
      exact (rulebook.define rule).parser_failsBy (fun grammar => Parser.Tracks.advances fun text =>
        grammar.parser_tracks (rulebook.unfold_tracks text (Nat.le_refl depth))) inductionHypothesis

theorem parserWithin_failsBy (rulebook : Rulebook Values) (depth : Nat → Nat)
    (grammar : Grammar Values α) :
    (rulebook.parserWithin depth grammar).FailsBy .ofCombinators := by
  refine grammar.parser_failsBy (fun grammar => ?_) fun rule cursor reason failed => ?_
  · exact Parser.Tracks.advances (rulebook.parserWithin_tracks depth grammar)
  · exact rulebook.unfold_failsBy (depth cursor.horizon) rule cursor reason failed

/-- A grammar fails in one of five ways: a character that stands some steps ahead, or the end of the
text there, is not the expected one; no character is left; a repetition has no match; a value was
refused by a predicate; or a parser was reached that always fails. So no failure comes from a choice
of parsers or of characters, and a failure of one kind has no origin but those of that kind. -/
theorem failure_arises_ahead (rulebook : Rulebook Values) (depth : Nat → Nat)
    (grammar : Grammar Values α) (cursor : Cursor) {reason : Failure}
    (failed : (rulebook.parserWithin depth grammar).parse cursor = .failure reason) :
    ((∃ expected steps, steps ≤ cursor.unread.length ∧
        (cursor.advance steps).current ≠ some expected ∧
        reason = ⟨.matchMismatch, "expected '" ++ String.singleton expected ++ "' got '" ++
          Failure.foundText (cursor.advance steps).current ++ "'", .matchChar⟩) ∨
      reason = ⟨.matchMismatch, "expected 'any character' got ''", .anyChar⟩ ∨
      reason = ⟨.emptyRepetition, "needs at least one match", .many1⟩ ∨
      (∃ message, reason = ⟨.rejected, message, .filter⟩) ∨
      ∃ message, reason = ⟨.rejected, message, .fail⟩) ∧
    (reason.kind, reason.origin) ∈ Failure.origins ∧
    reason.origin ≠ .choice ∧ reason.origin ≠ .anyOf := by
  have arises : reason.Arises cursor := rulebook.parserWithin_failsBy depth grammar cursor _ failed
  have member := arises.mem_origins
  have neither : ∀ source ∈ Failure.origins, source.2 ≠ .choice ∧ source.2 ≠ .anyOf := by decide
  refine ⟨?_, member, neither _ member⟩
  cases arises with
  | @mismatch expected steps within different =>
      exact .inl ⟨expected, steps, within, different, rfl⟩
  | noCharacter => exact .inr (.inl rfl)
  | emptyRepetition => exact .inr (.inr (.inl rfl))
  | refused message => exact .inr (.inr (.inr (.inl ⟨message, rfl⟩)))
  | failed message => exact .inr (.inr (.inr (.inr ⟨message, rfl⟩)))

/-- A rule in brackets that are not closed, and a character after letters that is no digit. -/
theorem failures_arise_in_brackets_and_after_letters :
    let rulebook : Rulebook fun _ : Fin 1 => Char :=
      ⟨fun _ => .orElse (.char '.') (.second (.char '(') (.first (.rule 0) (.char ')')))⟩
    let brackets := Cursor.ofText "((.x"
    (rulebook.parser (.rule 0)).parse brackets = .failure (.charMismatch ')' (some 'x')) ∧
    (∃ expected steps, steps ≤ 4 ∧ (brackets.advance steps).current ≠ some expected ∧
      (Failure.charMismatch ')' (some 'x')).message =
        "expected '" ++ String.singleton expected ++ "' got '" ++
          Failure.foundText (brackets.advance steps).current ++ "'") ∧
    (rulebook.parser (.bind .letters fun _ => .digit)).parse (Cursor.ofText "ab;") =
      .failure (.refused "expected digit") ∧
    (FailureKind.rejected, Combinator.filter) ∈ Failure.origins := by
  intro rulebook brackets
  have unclosed : (rulebook.parserWithin (1 * ·) (.rule 0)).parse brackets =
      .failure (.charMismatch ')' (some 'x')) := by rfl
  have noDigit : (rulebook.parserWithin (1 * ·) (.bind .letters fun _ => .digit)).parse
      (Cursor.ofText "ab;") = .failure (.refused "expected digit") := by rfl
  obtain ⟨ways, _⟩ := rulebook.failure_arises_ahead (1 * ·) (.rule 0) brackets unclosed
  obtain ⟨_, member, _⟩ := rulebook.failure_arises_ahead (1 * ·) _ _ noDigit
  refine ⟨unclosed, ?_, noDigit, member⟩
  have notOf : ∀ {kind message origin}, origin ≠ Combinator.matchChar →
      Failure.charMismatch ')' (some 'x') ≠ ⟨kind, message, origin⟩ :=
    fun different same => different (congrArg Failure.origin same).symm
  rcases ways with ⟨expected, steps, within, different, same⟩ | same | same | ⟨_, same⟩ | ⟨_, same⟩
  · exact ⟨expected, steps, within, different, congrArg Failure.message same⟩
  · exact absurd same (notOf (by decide))
  · exact absurd same (notOf (by decide))
  · exact absurd same (notOf (by decide))
  · exact absurd same (notOf (by decide))

end Rulebook

end Grammar

end TextGrammar
