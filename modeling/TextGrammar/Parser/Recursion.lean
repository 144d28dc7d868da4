import TextGrammar.Parser.Basic

/-!
Contract: parsers defined in terms of one another.

Owns:
- `Parser.Family`, a parser for each rule;
- `unfold`, the family whose rules call one another to a given depth, and `recursiveWithin`, in
  which the depth may depend on how much lies ahead;
- `recursive`, the family of finitely many rules that call one another without bound, and `fix`,
  the case of one rule.

`recursive` unfolds only as deep as a run can need. A chain of calls that is longer than the number
of rules times the number of places ahead calls one rule twice at one place, and then does so for
ever: `unfold` answers `endless` there, as it must. No such depth is enough for infinitely many
rules, but a run that returns needs only some depth.
-/

namespace TextGrammar

namespace Parser

/-- A parser for each rule, with a type of values of its own. -/
abbrev Family {Rule : Type} (Values : Rule → Type) : Type :=
  (rule : Rule) → Parser (Values rule)

variable {Rule : Type} {Values : Rule → Type} {α : Type}

/-- The rules with `depth` calls below one another; a call beyond that does not return. -/
def unfold (body : Family Values → Family Values) : (depth : Nat) → Family Values
  | 0 => fun _ => endless
  | depth + 1 => fun rule => ⟨fun cursor => (body (unfold body depth) rule).parse cursor⟩

/-- The rules with as many calls below one another as `depth` allows for the places ahead. -/
def recursiveWithin (depth : Nat → Nat) (body : Family Values → Family Values) : Family Values :=
  fun rule => ⟨fun cursor => (unfold body (depth cursor.horizon) rule).parse cursor⟩

/-- Finitely many rules with `body` as their definition, in which they call one another freely. -/
def recursive {rules : Nat} {Values : Fin rules → Type}
    (body : Family Values → Family Values) : Family Values :=
  recursiveWithin (rules * ·) body

/-- A body for one rule as a body for a family of one. -/
def onlyRule (body : Parser α → Parser α) :
    Family (fun _ : Fin 1 => α) → Family (fun _ : Fin 1 => α) :=
  fun self _ => body (self 0)

/-- The parser that `body` defines in terms of itself. -/
def fix (body : Parser α → Parser α) : Parser α :=
  recursive (onlyRule body) 0

theorem parse_unfold_zero (body : Family Values → Family Values) (rule : Rule)
    (cursor : Cursor) :
    (unfold body 0 rule).parse cursor = .endless := rfl

theorem parse_unfold_succ (body : Family Values → Family Values) (depth : Nat)
    (rule : Rule) (cursor : Cursor) :
    (unfold body (depth + 1) rule).parse cursor =
      (body (unfold body depth) rule).parse cursor := rfl

theorem parse_recursiveWithin (depth : Nat → Nat) (body : Family Values → Family Values)
    (rule : Rule) (cursor : Cursor) :
    (recursiveWithin depth body rule).parse cursor =
      (unfold body (depth cursor.horizon) rule).parse cursor := rfl

theorem parse_recursive {rules : Nat} {Values : Fin rules → Type}
    (body : Family Values → Family Values) (rule : Fin rules) (cursor : Cursor) :
    (recursive body rule).parse cursor =
      (unfold body (rules * cursor.horizon) rule).parse cursor := rfl

theorem parse_fix (body : Parser α → Parser α) (cursor : Cursor) :
    (fix body).parse cursor = (unfold (onlyRule body) cursor.horizon 0).parse cursor := by
  rw [fix, parse_recursive, Nat.one_mul]

end Parser

end TextGrammar
