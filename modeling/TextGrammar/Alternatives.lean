import TextGrammar.ConstructionError

/-!
Contract: two or more things to choose from.

Owns `Alternatives`, which cannot hold fewer than two items, and `Alternatives.ofList`, which
refuses a shorter list in the name of the combinator that was given it.
-/

namespace TextGrammar

/-- Two or more items, in order. -/
structure Alternatives (α : Type u) where
  first : α
  second : α
  others : List α

namespace Alternatives

/-- The items of a list, or the refusal of a list with fewer than two. -/
def ofList {α : Type u} (combinator : Combinator) :
    List α → Except ConstructionError (Alternatives α)
  | first :: second :: others => .ok ⟨first, second, others⟩
  | items => .error (.tooFewAlternatives combinator items.length)

/-- All items, in order. -/
def toList {α : Type u} (alternatives : Alternatives α) : List α :=
  alternatives.first :: alternatives.second :: alternatives.others

/-- Change every item. -/
def map {α : Type u} {β : Type v} (f : α → β) (alternatives : Alternatives α) :
    Alternatives β where
  first := f alternatives.first
  second := f alternatives.second
  others := alternatives.others.map f

@[simp] theorem toList_map {α : Type u} {β : Type v} (f : α → β)
    (alternatives : Alternatives α) :
    (alternatives.map f).toList = alternatives.toList.map f := rfl

theorem ofList_eq_ok_iff {α : Type u} {combinator : Combinator} {items : List α}
    {alternatives : Alternatives α} :
    ofList combinator items = .ok alternatives ↔ items = alternatives.toList := by
  obtain ⟨first, second, others⟩ := alternatives
  match items with
  | [] => simp [ofList, toList]
  | [_] => simp [ofList, toList]
  | _ :: _ :: _ => simp [ofList, toList]

theorem ofList_eq_error_iff {α : Type u} {combinator : Combinator} {items : List α}
    {error : ConstructionError} :
    ofList combinator items = .error error ↔
      items.length < 2 ∧ error = .tooFewAlternatives combinator items.length := by
  match items with
  | [] => simp [ofList, eq_comm]
  | [_] => simp [ofList, eq_comm]
  | _ :: _ :: tail =>
      have long : ¬ tail.length + 1 + 1 < 2 := by omega
      simp [ofList, long]

end Alternatives

end TextGrammar
