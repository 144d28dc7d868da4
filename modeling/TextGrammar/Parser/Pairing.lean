import TextGrammar.Parser.Basic

/-!
Contract: one parser after another, the second beginning where the first stopped.

Owns:
- `both`, which keeps the two values, and `first`, `second`, `between`, which keep one;
- `apply`, for a function that is itself read, and `lift2`, for a given function of two values.

The first failure is the failure of the whole, and what was read before it is lost.
-/

namespace TextGrammar

namespace Parser

variable {α β γ : Type}

/-- Read two values, one after the other. -/
def both (left : Parser α) (right : Parser β) : Parser (α × β) where
  parse cursor := (left.parse cursor).andThen fun leftValue afterLeft =>
    (right.parse afterLeft).andThen fun rightValue afterRight =>
      .success (leftValue, rightValue) afterRight

/-- Read two values and keep the first. -/
def first (kept : Parser α) (dropped : Parser β) : Parser α :=
  (kept.both dropped).map Prod.fst

/-- Read two values and keep the second. -/
def second (dropped : Parser α) (kept : Parser β) : Parser β :=
  (dropped.both kept).map Prod.snd

/-- Read what stands between two delimiters. -/
def between (opening : Parser α) (content : Parser β) (closing : Parser γ) : Parser β :=
  second opening (first content closing)

/-- Read a function, then its argument. -/
def apply (function : Parser (α → β)) (argument : Parser α) : Parser β where
  parse cursor := (function.parse cursor).andThen fun f afterFunction =>
    (argument.parse afterFunction).andThen fun value afterArgument =>
      .success (f value) afterArgument

/-- Read two values and combine them. -/
def lift2 (f : α → β → γ) (left : Parser α) (right : Parser β) : Parser γ :=
  apply (apply (succeed f) left) right

@[simp] theorem parse_both (left : Parser α) (right : Parser β) (cursor : Cursor) :
    (left.both right).parse cursor =
      (left.parse cursor).andThen fun leftValue afterLeft =>
        (right.parse afterLeft).map fun rightValue => (leftValue, rightValue) := by
  simp only [both, Outcome.map_eq_andThen]

@[simp] theorem parse_first (kept : Parser α) (dropped : Parser β) (cursor : Cursor) :
    (first kept dropped).parse cursor =
      (kept.parse cursor).andThen fun value afterKept =>
        (dropped.parse afterKept).map fun _ => value := by
  simp only [first, parse_map, parse_both, Outcome.map_eq_andThen, Outcome.andThen_assoc,
    Outcome.success_andThen]

@[simp] theorem parse_second (dropped : Parser α) (kept : Parser β) (cursor : Cursor) :
    (second dropped kept).parse cursor =
      (dropped.parse cursor).andThen fun _ afterDropped => kept.parse afterDropped := by
  have keep : ∀ outcome : Outcome β,
      (outcome.andThen fun value after => .success value after) = outcome := by
    intro outcome
    cases outcome <;> rfl
  simp only [second, parse_map, parse_both, Outcome.map_eq_andThen, Outcome.andThen_assoc,
    Outcome.success_andThen, keep]

@[simp] theorem parse_apply (function : Parser (α → β)) (argument : Parser α)
    (cursor : Cursor) :
    (apply function argument).parse cursor =
      (function.parse cursor).andThen fun f afterFunction =>
        (argument.parse afterFunction).map f := by
  simp only [apply, Outcome.map_eq_andThen]

theorem parse_lift2 (f : α → β → γ) (left : Parser α) (right : Parser β) (cursor : Cursor) :
    (lift2 f left right).parse cursor =
      (left.parse cursor).andThen fun leftValue afterLeft =>
        (right.parse afterLeft).map (f leftValue) := by
  simp only [lift2, parse_apply, parse_succeed, Outcome.success_andThen,
    Outcome.map_eq_andThen, Outcome.andThen_assoc]

end Parser

end TextGrammar
