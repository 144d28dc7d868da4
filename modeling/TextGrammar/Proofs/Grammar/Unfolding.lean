import Mathlib.Data.Fintype.Prod
import Mathlib.Order.Monotone.Basic
import TextGrammar.Proofs.Grammar.Tracking

/-!
Contract: how deep the calls of finitely many rules can go before they repeat themselves.

Owns:
- `settled`, the rules and places whose runs return with calls of a given depth;
- that calls as deep as there are rules times places settle whatever deeper calls settle;
- `Rulebook.parsers_eq`, that rules which call one another freely satisfy their definitions;
- `Rulebook.parse_parser_eq_iff`, that a grammar answers under them what it answers at some depth.

A greater depth settles more runs, or else no depth ever will: what the rules answer with calls of
one depth decides what they answer with calls that are one deeper. As there are only so many runs,
there are only so many depths that settle more.
-/

namespace TextGrammar.Rulebook

open TextGrammar.Parser (unfold Tracks)

variable {rules : Nat} {Values : Fin rules → Type} {α : Type} {rulebook : Rulebook Values}
  {text : List Char} {depth deeper : Nat}

open Classical in
/-- The runs that return with calls of the depth, by their rule and by how much of the text lies
behind their place. -/
noncomputable def settled (rulebook : Rulebook Values) (text : List Char) (depth : Nat) :
    Finset (Fin rules × Fin (text.length + 1)) :=
  Finset.univ.filter fun run =>
    ((unfold rulebook.body depth run.1).parse (Cursor.ofChars (text.drop run.2))).Returns

/-- A run returns at one cursor if it does at any other with the same text ahead. -/
private theorem mem_settled_iff {rule : Fin rules} {passed : Fin (text.length + 1)}
    {cursor : Cursor} (unreadEq : cursor.unread = text.drop passed) :
    (rule, passed) ∈ settled rulebook text depth ↔
      ((unfold rulebook.body depth rule).parse cursor).Returns := by
  have tracks := rulebook.unfold_tracks text (Nat.le_refl depth) rule
  have startUnread : (Cursor.ofChars (text.drop passed)).unread = cursor.unread := by
    rw [Cursor.unread_ofChars, unreadEq]
  have suffix : cursor.unread <:+ text := unreadEq ▸ List.drop_suffix _ _
  simp only [settled, Finset.mem_filter, Finset.mem_univ, true_and]
  constructor
  · exact (tracks _ cursor (startUnread ▸ suffix) startUnread).returns
  · exact (tracks cursor _ suffix startUnread.symm).returns

private theorem exists_eq_drop_of_suffix {ahead : List Char} (suffix : ahead <:+ text) :
    ∃ passed : Fin (text.length + 1), ahead = text.drop passed :=
  ⟨⟨text.length - ahead.length, by omega⟩, List.suffix_iff_eq_drop.mp suffix⟩

private theorem settled_subset_of_tracks
    (tracks : ∀ rule, Tracks text (unfold rulebook.body depth rule)
      (unfold rulebook.body deeper rule)) :
    settled rulebook text depth ⊆ settled rulebook text deeper := by
  rintro ⟨rule, passed⟩ member
  have unreadEq := Cursor.unread_ofChars (text.drop passed)
  have suffix : (Cursor.ofChars (text.drop passed)).unread <:+ text := by
    rw [unreadEq]
    exact List.drop_suffix _ _
  rw [mem_settled_iff unreadEq] at member ⊢
  exact (tracks rule _ _ suffix rfl).returns member

/-- Calls that settle as much as deeper ones come to whatever those come to. -/
private theorem tracks_of_settled_subset (notDeeper : depth ≤ deeper)
    (subset : settled rulebook text deeper ⊆ settled rulebook text depth) (rule : Fin rules) :
    Tracks text (unfold rulebook.body deeper rule) (unfold rulebook.body depth rule) := by
  intro left right suffix same
  by_cases returns : ((unfold rulebook.body deeper rule).parse left).Returns
  · obtain ⟨passed, unreadEq⟩ := exists_eq_drop_of_suffix suffix
    have settledBelow := subset ((mem_settled_iff unreadEq).mpr returns)
    have belowReturns := (mem_settled_iff (same ▸ unreadEq)).mp settledBelow
    have forth := rulebook.unfold_tracks text notDeeper rule right left (same ▸ suffix) same.symm
    exact forth.symm belowReturns same.symm
  · rw [Outcome.not_returns_iff] at returns
    rw [returns]
    exact .endless _

private theorem card_settled_eq (rulebook : Rulebook Values) (text : List Char)
    (enough : rules * (text.length + 1) ≤ depth) :
    (settled rulebook text depth).card =
      (settled rulebook text (rules * (text.length + 1))).card := by
  refine Nat.stabilises_of_monotone (f := fun depth => (settled rulebook text depth).card)
    ?_ ?_ ?_ enough
  · intro shallow deep notDeeper
    exact Finset.card_le_card (settled_subset_of_tracks (rulebook.unfold_tracks text notDeeper))
  · intro depth
    simpa using Finset.card_le_univ (settled rulebook text depth)
  -- What one more level does not settle, no further level does: the bodies see no difference.
  · intro depth same
    have grows := settled_subset_of_tracks (rulebook.unfold_tracks text (Nat.le_succ depth))
    have equal := Finset.eq_of_subset_of_card_le grows (Nat.le_of_eq same.symm)
    have back := tracks_of_settled_subset (Nat.le_succ depth) (Finset.subset_of_eq equal.symm)
    have backOneDeeper : ∀ rule, Tracks text (unfold rulebook.body (depth + 2) rule)
        (unfold rulebook.body (depth + 1) rule) :=
      fun rule => (rulebook.define rule).parser_tracks back
    refine Nat.le_antisymm ?_ (Finset.card_le_card (settled_subset_of_tracks backOneDeeper))
    exact Finset.card_le_card
      (settled_subset_of_tracks (rulebook.unfold_tracks text (Nat.le_succ (depth + 1))))

/-- Beyond the number of rules times the number of places, the depth does not matter. -/
theorem unfold_tracks_of_enough (rulebook : Rulebook Values) (text : List Char)
    (enough : rules * (text.length + 1) ≤ depth) (rule : Fin rules) :
    Tracks text (unfold rulebook.body deeper rule) (unfold rulebook.body depth rule) := by
  by_cases notDeeper : deeper ≤ depth
  · exact rulebook.unfold_tracks text notDeeper rule
  · have deeperThan := Nat.le_of_not_le notDeeper
    have grows := settled_subset_of_tracks (rulebook.unfold_tracks text deeperThan)
    have deeperEnough := enough.trans deeperThan
    have sameCard := (card_settled_eq rulebook text enough).trans
      (card_settled_eq rulebook text deeperEnough).symm
    have equal := Finset.eq_of_subset_of_card_le grows (Nat.le_of_eq sameCard.symm)
    exact tracks_of_settled_subset deeperThan (Finset.subset_of_eq equal.symm) rule

/-! ### Calls without bound -/

private theorem enough_of_suffix {ahead : List Char} (suffix : ahead <:+ text)
    (enough : rules * (text.length + 1) ≤ depth) : rules * (ahead.length + 1) ≤ depth :=
  (Nat.mul_le_mul_left rules (Nat.succ_le_succ suffix.length_le)).trans enough

private theorem horizon_suffices (cursor : Cursor) :
    rules * (cursor.unread.length + 1) ≤ rules * cursor.horizon :=
  Nat.mul_le_mul_left rules (Nat.le_succ _)

theorem parsers_track_unfold (rulebook : Rulebook Values) (text : List Char)
    (enough : rules * (text.length + 1) ≤ depth) (rule : Fin rules) :
    Tracks text (rulebook.parsers rule) (unfold rulebook.body depth rule) := by
  intro left right suffix same
  exact rulebook.unfold_tracks_of_enough left.unread (enough_of_suffix suffix enough) rule left
    right (List.suffix_refl _) same

theorem unfold_tracks_parsers (rulebook : Rulebook Values) (text : List Char) (depth : Nat)
    (rule : Fin rules) :
    Tracks text (unfold rulebook.body depth rule) (rulebook.parsers rule) := by
  intro left right suffix same
  exact rulebook.unfold_tracks_of_enough right.unread (horizon_suffices right) rule left right
    (same ▸ List.suffix_refl _) same

/-- Rules that call one another freely satisfy their definitions. -/
theorem parsers_eq (rulebook : Rulebook Values) :
    rulebook.parsers = rulebook.body rulebook.parsers := by
  funext rule
  apply Parser.ext
  funext cursor
  -- Both sides come to what calls one level deeper than enough come to.
  let depth := rules * (cursor.unread.length + 1)
  have body : Tracks cursor.unread (unfold rulebook.body (depth + 1) rule)
      (rulebook.body rulebook.parsers rule) :=
    (rulebook.define rule).parser_tracks (rulebook.unfold_tracks_parsers cursor.unread depth)
  have bodyBack : Tracks cursor.unread (rulebook.body rulebook.parsers rule)
      (unfold rulebook.body (depth + 1) rule) :=
    (rulebook.define rule).parser_tracks
      (rulebook.parsers_track_unfold cursor.unread (Nat.le_refl depth))
  exact ((rulebook.parsers_track_unfold cursor.unread (Nat.le_succ depth) rule).trans body).parse_eq
    (bodyBack.trans (rulebook.unfold_tracks_parsers cursor.unread (depth + 1) rule))
    (List.suffix_refl _)

/-- A grammar returns with an outcome under rules that call one another freely exactly if it does
under rules whose calls go to some depth. -/
theorem parse_parser_eq_iff (rulebook : Rulebook Values) (grammar : Grammar Values α)
    (cursor : Cursor) {outcome : Outcome α} (returns : outcome.Returns) :
    (rulebook.parser grammar).parse cursor = outcome ↔
      ∃ depth, (rulebook.parserWithin (fun _ => depth) grammar).parse cursor = outcome := by
  have forth : ∀ depth, Tracks cursor.unread (rulebook.parserWithin (fun _ => depth) grammar)
      (rulebook.parser grammar) :=
    fun depth => grammar.parser_tracks (rulebook.unfold_tracks_parsers cursor.unread depth)
  constructor
  · rintro rfl
    have back : Tracks cursor.unread (rulebook.parser grammar)
        (rulebook.parserWithin (fun _ => rules * (cursor.unread.length + 1)) grammar) :=
      grammar.parser_tracks (rulebook.parsers_track_unfold cursor.unread (Nat.le_refl _))
    exact ⟨_, (back cursor cursor (List.suffix_refl _) rfl).eq_of_returns returns⟩
  · rintro ⟨depth, rfl⟩
    exact (forth depth cursor cursor (List.suffix_refl _) rfl).eq_of_returns returns

end TextGrammar.Rulebook
