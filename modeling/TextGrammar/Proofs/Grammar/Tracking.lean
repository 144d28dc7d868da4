import TextGrammar.Grammar.Basic
import TextGrammar.Proofs.Progress

/-!
Contract: runs at two places with the same text ahead.

Owns:
- `Outcome.Tracks`, two outcomes that differ only in where they begin, if the first one returns;
- `Parser.Tracks`, two parsers with such outcomes wherever a suffix of a given text is unread, and
  how every combinator keeps this;
- `Grammar.parser_tracks`, that grammars keep it, by induction on the grammar, and
  `Rulebook.parserWithin_tracks`, that every grammar tracks itself.

What tracks itself says two things. At one cursor it says that a success is some steps ahead, and
at two cursors that nothing but the unread text matters. The second parser need not be the first,
so the same induction compares calls of different depths.
-/

namespace TextGrammar

variable {α β : Type}

namespace Outcome

/-- What a run at `left` comes to, a run at `right` comes to as well: the same failure, or the same
value as many steps ahead. Where the run at `left` does not return, the other one is free. -/
inductive Tracks (left right : Cursor) : Outcome α → Outcome α → Prop where
  | success (value : α) (steps : Nat) (within : steps ≤ left.unread.length) :
      Tracks left right (.success value (left.advance steps)) (.success value (right.advance steps))
  | failure (reason : Failure) : Tracks left right (.failure reason) (.failure reason)
  | endless (outcome : Outcome α) : Tracks left right .endless outcome

variable {left right : Cursor}

theorem Tracks.stay (value : α) :
    Tracks left right (.success value left) (.success value right) :=
  .success value 0 (Nat.zero_le _)

/-- What happens some steps ahead happens as many steps ahead of where those began. -/
theorem Tracks.shift {outcome like : Outcome α} {steps : Nat}
    (within : steps ≤ left.unread.length)
    (tracks : Tracks (left.advance steps) (right.advance steps) outcome like) :
    Tracks left right outcome like := by
  cases tracks with
  | success value more moreWithin =>
      rw [Cursor.unread_advance, List.length_drop] at moreWithin
      rw [← Cursor.advance_add, ← Cursor.advance_add]
      exact .success value (steps + more) (by omega)
  | failure reason => exact .failure reason
  | endless => exact .endless _

theorem Tracks.returns {outcome like : Outcome α} (tracks : Tracks left right outcome like)
    (returns : outcome.Returns) : like.Returns := by
  cases tracks with
  | success value steps within => exact returns_success _ _
  | failure reason => exact returns_failure reason
  | endless => exact absurd rfl returns

/-- A run that returns is tracked back by the one that tracks it. -/
theorem Tracks.symm {outcome like : Outcome α} (tracks : Tracks left right outcome like)
    (returns : outcome.Returns) (same : left.unread = right.unread) :
    Tracks right left like outcome := by
  cases tracks with
  | success value steps within => exact .success value steps (same ▸ within)
  | failure reason => exact .failure reason
  | endless => exact absurd rfl returns

/-- At one cursor, nothing but an endless run is tracked by something else. -/
theorem Tracks.eq_of_returns {cursor : Cursor} {outcome like : Outcome α}
    (tracks : Tracks cursor cursor outcome like) (returns : outcome.Returns) :
    like = outcome := by
  cases tracks with
  | success value steps within => rfl
  | failure reason => rfl
  | endless => exact absurd rfl returns

theorem Tracks.trans {outcome like last : Outcome α} (tracks : Tracks left right outcome like)
    (further : Tracks right right like last) : Tracks left right outcome last := by
  by_cases returns : outcome.Returns
  · rw [further.eq_of_returns (tracks.returns returns)]
    exact tracks
  · rw [not_returns_iff] at returns
    rw [returns]
    exact .endless last

theorem Tracks.andThen {outcome like : Outcome α} {next nextLike : α → Cursor → Outcome β}
    (tracks : Tracks left right outcome like)
    (following : ∀ value steps, steps ≤ left.unread.length →
      Tracks (left.advance steps) (right.advance steps)
        (next value (left.advance steps)) (nextLike value (right.advance steps))) :
    Tracks left right (outcome.andThen next) (like.andThen nextLike) := by
  cases tracks with
  | success value steps within => exact (following value steps within).shift within
  | failure reason => exact .failure reason
  | endless => exact .endless _

theorem Tracks.map {outcome like : Outcome α} (tracks : Tracks left right outcome like)
    (f : α → β) :
    Tracks left right (outcome.map f) (like.map f) := by
  rw [map_eq_andThen, map_eq_andThen]
  exact tracks.andThen fun value _ _ => .stay (f value)

theorem Tracks.orElse {outcome like : Outcome α} {other otherLike : Unit → Outcome α}
    (tracks : Tracks left right outcome like)
    (others : Tracks left right (other ()) (otherLike ())) :
    Tracks left right (outcome.orElse other) (like.orElse otherLike) := by
  cases tracks with
  | success value steps within => exact .success value steps within
  | failure reason => exact others
  | endless => exact .endless _

end Outcome

namespace Parser

variable {text : List Char}

/-- Where the same suffix of `text` is unread, `like` comes to what `parser` comes to. -/
def Tracks (text : List Char) (parser like : Parser α) : Prop :=
  ∀ left right : Cursor, left.unread <:+ text → left.unread = right.unread →
    (parser.parse left).Tracks left right (like.parse right)

theorem Tracks.trans {parser like last : Parser α} (tracks : Tracks text parser like)
    (further : Tracks text like last) : Tracks text parser last :=
  fun left right suffix same =>
    (tracks left right suffix same).trans (further right right (same ▸ suffix) rfl)

/-- Parsers that track each other answer the same at every cursor of the text. -/
theorem Tracks.parse_eq {parser like : Parser α} (forth : Tracks text parser like)
    (back : Tracks text like parser) {cursor : Cursor} (suffix : cursor.unread <:+ text) :
    parser.parse cursor = like.parse cursor := by
  by_cases returns : (parser.parse cursor).Returns
  · exact ((forth cursor cursor suffix rfl).eq_of_returns returns).symm
  · by_cases likeReturns : (like.parse cursor).Returns
    · exact (back cursor cursor suffix rfl).eq_of_returns likeReturns
    · rw [Outcome.not_returns_iff] at returns likeReturns
      rw [returns, likeReturns]

/-- What tracks itself says how far ahead a success stands. -/
theorem Tracks.advances {parser : Parser α} (tracks : ∀ text, Tracks text parser parser) :
    parser.Advances := by
  intro cursor value next read
  have same := tracks cursor.unread cursor cursor (List.suffix_refl _) rfl
  rw [read] at same
  cases same with
  | success _ steps within => exact ⟨steps, within, rfl⟩

/-! ### One parser, or two in a row -/

theorem tracks_succeed (text : List Char) (value : α) :
    Tracks text (succeed value) (succeed value) :=
  fun _ _ _ _ => .stay value

theorem tracks_fail (text : List Char) (message : String) :
    Tracks text (fail message : Parser α) (fail message) :=
  fun _ _ _ _ => .failure _

private theorem current_eq_of_unread_eq {left right : Cursor} (same : left.unread = right.unread) :
    left.current = right.current := by
  rw [Cursor.current, Cursor.current, same]

private theorem one_le_length_of_current {cursor : Cursor} {found : Char}
    (current : cursor.current = some found) : 1 ≤ cursor.unread.length := by
  obtain ⟨tail, unreadEq⟩ := Cursor.exists_unread_of_current current
  simp [unreadEq]

theorem tracks_char (text : List Char) (expected : Char) :
    Tracks text (char expected) (char expected) := by
  intro left right _ same
  have currentEq := current_eq_of_unread_eq same
  by_cases found : left.current = some expected
  · rw [parse_char_of_current found, parse_char_of_current (currentEq ▸ found)]
    exact .success expected 1 (one_le_length_of_current found)
  · rw [parse_char_of_ne found, parse_char_of_ne (currentEq ▸ found), currentEq]
    exact .failure _

theorem tracks_anyChar (text : List Char) : Tracks text anyChar anyChar := by
  intro left right _ same
  have currentEq := current_eq_of_unread_eq same
  cases found : left.current with
  | none =>
      rw [parse_anyChar_of_none found, parse_anyChar_of_none (currentEq ▸ found)]
      exact .failure _
  | some character =>
      rw [parse_anyChar_of_current found, parse_anyChar_of_current (currentEq ▸ found)]
      exact .success character 1 (one_le_length_of_current found)

/-- After as many steps, the unread texts are still the same suffix. -/
theorem Tracks.ahead {parser like : Parser α} (tracks : Tracks text parser like)
    {left right : Cursor} (suffix : left.unread <:+ text) (same : left.unread = right.unread)
    (steps : Nat) :
    (parser.parse (left.advance steps)).Tracks (left.advance steps) (right.advance steps)
      (like.parse (right.advance steps)) := by
  refine tracks _ _ ?_ ?_
  · rw [Cursor.unread_advance]
    exact (List.drop_suffix steps left.unread).trans suffix
  · rw [Cursor.unread_advance, Cursor.unread_advance, same]

theorem Tracks.bind {parser like : Parser α} {next nextLike : α → Parser β}
    (tracks : Tracks text parser like)
    (following : ∀ value, Tracks text (next value) (nextLike value)) :
    Tracks text (parser.bind next) (like.bind nextLike) := by
  intro left right suffix same
  rw [parse_bind, parse_bind]
  exact (tracks left right suffix same).andThen fun value steps _ =>
    (following value).ahead suffix same steps

theorem Tracks.map {parser like : Parser α} (tracks : Tracks text parser like) (f : α → β) :
    Tracks text (parser.map f) (like.map f) :=
  fun left right suffix same => (tracks left right suffix same).map f

theorem Tracks.filter {parser like : Parser α} (tracks : Tracks text parser like)
    (accept : α → Bool) (message : String) :
    Tracks text (parser.filter accept message) (like.filter accept message) := by
  intro left right suffix same
  rw [parse_filter, parse_filter]
  refine (tracks left right suffix same).andThen fun value steps _ => ?_
  split
  · exact .stay value
  · exact .failure _

theorem Tracks.both {left leftLike : Parser α} {right rightLike : Parser β}
    (leftTracks : Tracks text left leftLike) (rightTracks : Tracks text right rightLike) :
    Tracks text (left.both right) (leftLike.both rightLike) := by
  rw [both_eq_bind, both_eq_bind]
  exact leftTracks.bind fun value => rightTracks.map (Prod.mk value)

theorem Tracks.apply {function functionLike : Parser (α → β)} {argument argumentLike : Parser α}
    (functionTracks : Tracks text function functionLike)
    (argumentTracks : Tracks text argument argumentLike) :
    Tracks text (function.apply argument) (functionLike.apply argumentLike) := by
  rw [apply_eq_bind, apply_eq_bind]
  exact functionTracks.bind argumentTracks.map

/-! ### Alternatives -/

theorem Tracks.orElse {preferred preferredLike alternative alternativeLike : Parser α}
    (preferredTracks : Tracks text preferred preferredLike)
    (alternativeTracks : Tracks text alternative alternativeLike) :
    Tracks text (preferred.orElse alternative) (preferredLike.orElse alternativeLike) := by
  intro left right suffix same
  rw [parse_orElse, parse_orElse]
  exact (preferredTracks left right suffix same).orElse (alternativeTracks left right suffix same)

theorem Tracks.firstSuccess {Index : Type} {items like : Index → Parser α}
    (tracks : ∀ index, Tracks text (items index) (like index)) (first : Index)
    (others : List Index) :
    Tracks text (firstSuccess (items first) (others.map items))
      (firstSuccess (like first) (others.map like)) := by
  induction others generalizing first with
  | nil => exact tracks first
  | cons second others inductionHypothesis =>
      exact (tracks first).orElse (inductionHypothesis second)

theorem Tracks.optional {parser like : Parser α} (tracks : Tracks text parser like) :
    Tracks text parser.optional like.optional := by
  intro left right suffix same
  rw [parse_optional, parse_optional]
  exact ((tracks left right suffix same).map some).orElse (.stay none)

/-! ### Sequences and repetitions -/

theorem Tracks.sequence {Index : Type} {items like : Index → Parser α}
    (tracks : ∀ index, Tracks text (items index) (like index)) (indices : List Index) :
    Tracks text (sequence (indices.map items)) (sequence (indices.map like)) := by
  induction indices with
  | nil => exact tracks_succeed text []
  | cons first others inductionHypothesis =>
      intro left right suffix same
      rw [List.map_cons, List.map_cons, parse_sequence_cons, parse_sequence_cons]
      exact (tracks first left right suffix same).andThen fun value steps _ =>
        (inductionHypothesis.ahead suffix same steps).map (value :: ·)

/-- Two loops track each other round by round, if they have the same bound. -/
theorem Tracks.repeatWithin {parser like : Parser α} (tracks : Tracks text parser like)
    (runs : Nat) :
    Tracks text ⟨parser.repeatWithin runs⟩ ⟨like.repeatWithin runs⟩ := by
  induction runs with
  | zero => exact fun _ _ _ _ => .endless _
  | succ runs inductionHypothesis =>
      intro left right suffix same
      have round := tracks left right suffix same
      dsimp only
      rw [repeatWithin_succ, repeatWithin_succ]
      -- The two loops look at the outcomes of one round, and these are related.
      generalize parser.parse left = outcome at round ⊢
      generalize like.parse right = outcomeLike at round ⊢
      cases round with
      | success value steps within =>
          exact ((inductionHypothesis.ahead suffix same steps).map (value :: ·)).shift within
      | failure reason => exact .stay []
      | endless => exact .endless _

private theorem horizon_eq_of_unread_eq {left right : Cursor} (same : left.unread = right.unread) :
    left.horizon = right.horizon := by
  rw [Cursor.horizon, Cursor.horizon, same]

theorem Tracks.many {parser like : Parser α} (tracks : Tracks text parser like) :
    Tracks text parser.many like.many := by
  intro left right suffix same
  rw [parse_many, parse_many, horizon_eq_of_unread_eq same]
  exact tracks.repeatWithin right.horizon left right suffix same

theorem Tracks.many1 {parser like : Parser α} (tracks : Tracks text parser like) :
    Tracks text parser.many1 like.many1 := by
  intro left right suffix same
  rw [parse_many1, parse_many1]
  refine (tracks.many left right suffix same).andThen fun values steps _ => ?_
  split
  · exact .failure _
  · exact .stay values

theorem Tracks.element {parser like : Parser α} {separator separatorLike : Parser β}
    (tracks : Tracks text parser like)
    (separatorTracks : Tracks text separator separatorLike) :
    Tracks text (element parser separator) (element like separatorLike) := by
  rw [element_eq_bind, element_eq_bind]
  exact tracks.bind fun value =>
    (separatorTracks.map fun _ => value).orElse (tracks_succeed text value)

theorem Tracks.moreWithin {parser like : Parser α} {separator separatorLike : Parser β}
    (tracks : Tracks text parser like) (separatorTracks : Tracks text separator separatorLike)
    (rounds : Nat) :
    Tracks text ⟨parser.moreWithin separator rounds⟩ ⟨like.moreWithin separatorLike rounds⟩ := by
  induction rounds with
  | zero => exact fun _ _ _ _ => .endless _
  | succ rounds inductionHypothesis =>
      have item := tracks.bind fun value => inductionHypothesis.map (value :: ·)
      intro left right suffix same
      have round := separatorTracks left right suffix same
      dsimp only
      rw [moreWithin_succ, moreWithin_succ]
      generalize separator.parse left = outcome at round ⊢
      generalize separatorLike.parse right = outcomeLike at round ⊢
      cases round with
      | success mark steps within => exact (item.ahead suffix same steps).shift within
      | failure reason => exact .stay []
      | endless => exact .endless _

theorem Tracks.separatedList {parser like : Parser α} {separator separatorLike : Parser β}
    (tracks : Tracks text parser like)
    (separatorTracks : Tracks text separator separatorLike) :
    Tracks text (separatedList parser separator) (separatedList like separatorLike) := by
  intro left right suffix same
  rw [parse_separatedList, parse_separatedList]
  refine (tracks left right suffix same).andThen fun value steps _ => ?_
  have sameAhead : (left.advance steps).unread = (right.advance steps).unread := by
    rw [Cursor.unread_advance, Cursor.unread_advance, same]
  rw [horizon_eq_of_unread_eq sameAhead]
  have more := tracks.moreWithin separatorTracks (right.advance steps).horizon
  exact (more.ahead suffix same steps).map (value :: ·)

end Parser

/-! ### Grammars -/

section Grammar

variable {Rule : Type} {Values : Rule → Type} {text : List Char}

/-- Where the parsers of the rules track one another, so do those of every grammar. -/
theorem Grammar.parser_tracks {self like : Parser.Family Values}
    (rules : ∀ rule, Parser.Tracks text (self rule) (like rule)) (grammar : Grammar Values α) :
    Parser.Tracks text (grammar.parser self) (grammar.parser like) := by
  induction grammar with
  | succeed value => exact Parser.tracks_succeed text value
  | fail message => exact Parser.tracks_fail text message
  | char expected => exact Parser.tracks_char text expected
  | anyChar => exact Parser.tracks_anyChar text
  | map f grammar inner => exact inner.map f
  | filter grammar accept message inner => exact inner.filter accept message
  | bind grammar next inner following => exact inner.bind following
  | both left right leftInner rightInner => exact leftInner.both rightInner
  | apply function argument functionInner argumentInner => exact functionInner.apply argumentInner
  | orElse preferred alternative preferredInner alternativeInner =>
      exact preferredInner.orElse alternativeInner
  | choice alternatives inner =>
      have others := Parser.Tracks.firstSuccess inner 0
        (1 :: (List.finRange _).map fun index => index.succ.succ)
      simpa [Grammar.parser, Parser.choice, List.finRange, Function.comp_def] using others
  | optional grammar inner => exact inner.optional
  | sequence items inner =>
      have all := Parser.Tracks.sequence inner (List.finRange _)
      simpa [Grammar.parser, Parser.indexed_eq_sequence, List.finRange, Function.comp_def] using all
  | many grammar inner => exact inner.many
  | many1 grammar inner => exact inner.many1
  | element grammar separator inner separatorInner => exact inner.element separatorInner
  | separatedList grammar separator inner separatorInner =>
      exact inner.separatedList separatorInner
  | deferred build inner => exact inner ()
  | rule index => exact rules index

namespace Rulebook

/-- Deeper calls come to whatever shallower calls come to. -/
theorem unfold_tracks (rulebook : Rulebook Values) (text : List Char) {depth deeper : Nat}
    (notDeeper : depth ≤ deeper) (rule : Rule) :
    Parser.Tracks text (Parser.unfold rulebook.body depth rule)
      (Parser.unfold rulebook.body deeper rule) := by
  -- By induction on the smaller depth. At depth zero nothing returns.
  induction depth generalizing deeper rule with
  | zero => exact fun _ _ _ _ => .endless _
  | succ depth inductionHypothesis =>
      cases deeper with
      | zero => omega
      | succ deeper =>
          exact (rulebook.define rule).parser_tracks (inductionHypothesis (by omega))

/-- Every grammar tracks itself. -/
theorem parserWithin_tracks (rulebook : Rulebook Values) (depth : Nat → Nat)
    (grammar : Grammar Values α) (text : List Char) :
    Parser.Tracks text (rulebook.parserWithin depth grammar)
      (rulebook.parserWithin depth grammar) := by
  refine grammar.parser_tracks fun rule left right suffix same => ?_
  rw [parsersWithin, Parser.parse_recursiveWithin, Parser.parse_recursiveWithin,
    Parser.horizon_eq_of_unread_eq same]
  exact rulebook.unfold_tracks text (Nat.le_refl _) rule left right suffix same

end Rulebook

end Grammar

end TextGrammar
