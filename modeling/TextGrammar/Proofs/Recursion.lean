import TextGrammar.Parser.Recursion
import TextGrammar.Proofs.Reading

/-!
Contract: parsers that call themselves after they have read something.

Owns:
- `AgreeBelow`, two parsers that answer alike where little is left to read, and how the
  combinators keep it;
- `Guarded`, the bodies that call the parser they are given only after a character was read;
- `fix_eq`, that the parser of a guarded body satisfies its definition, and the induction over what
  its runs have;
- `reads_fix`, the language of such a parser as the solution of an equation between languages.

A call that comes after a character sees a shorter text, so a chain of calls is no longer than the
text, and the depth to which `fix` unfolds is never met.
-/

namespace TextGrammar

namespace Language

variable {α : Type}

/-- The part of a language in texts of fewer than `bound` characters, what follows included. -/
def below (language : Language α) (bound : Nat) : Language α :=
  fun value text rest => (text ++ rest).length < bound ∧ language value text rest

end Language

namespace Parser

variable {α β γ : Type}

/-- The parsers answer alike wherever fewer than `bound` characters are left. -/
def AgreeBelow (bound : Nat) (left right : Parser α) : Prop :=
  ∀ cursor, cursor.unread.length < bound → left.parse cursor = right.parse cursor

section AgreeBelow

variable {bound : Nat}

theorem agreeBelow_refl (bound : Nat) (parser : Parser α) : AgreeBelow bound parser parser :=
  fun _ _ => rfl

theorem AgreeBelow.map {left right : Parser α} (agree : AgreeBelow bound left right)
    (f : α → β) :
    AgreeBelow bound (left.map f) (right.map f) := by
  intro cursor short
  rw [parse_map, parse_map, agree cursor short]

theorem AgreeBelow.both {left right : Parser α} {leftNext rightNext : Parser β}
    (agree : AgreeBelow bound left right) (agreeNext : AgreeBelow bound leftNext rightNext)
    (advances : left.Advances) :
    AgreeBelow bound (left.both leftNext) (right.both rightNext) := by
  intro cursor short
  rw [parse_both, parse_both, ← agree cursor short]
  cases read : left.parse cursor with
  | failure reason => rfl
  | endless => rfl
  | success value between =>
      have notLonger := advances.unread_length_le read
      rw [Outcome.success_andThen, Outcome.success_andThen, agreeNext between (by omega)]

theorem AgreeBelow.first {left right : Parser α} {leftNext rightNext : Parser β}
    (agree : AgreeBelow bound left right) (agreeNext : AgreeBelow bound leftNext rightNext)
    (advances : left.Advances) :
    AgreeBelow bound (first left leftNext) (first right rightNext) :=
  (agree.both agreeNext advances).map Prod.fst

theorem AgreeBelow.second {left right : Parser α} {leftNext rightNext : Parser β}
    (agree : AgreeBelow bound left right) (agreeNext : AgreeBelow bound leftNext rightNext)
    (advances : left.Advances) :
    AgreeBelow bound (second left leftNext) (second right rightNext) :=
  (agree.both agreeNext advances).map Prod.snd

/-- After a parser that consumes, what comes next sees less of the text. -/
theorem AgreeBelow.second_of_consumes {opening : Parser α} {left right : Parser β}
    (agree : AgreeBelow bound left right) (consumes : opening.Consumes) :
    AgreeBelow (bound + 1) (Parser.second opening left) (Parser.second opening right) := by
  intro cursor short
  rw [parse_second, parse_second]
  cases read : opening.parse cursor with
  | failure reason => rfl
  | endless => rfl
  | success value between =>
      have shorter := consumes cursor value between read
      rw [Outcome.success_andThen, Outcome.success_andThen, agree between (by omega)]

theorem AgreeBelow.orElse {left right leftOther rightOther : Parser α}
    (agree : AgreeBelow bound left right) (agreeOther : AgreeBelow bound leftOther rightOther) :
    AgreeBelow bound (left.orElse leftOther) (right.orElse rightOther) := by
  intro cursor short
  rw [parse_orElse, parse_orElse, agree cursor short, agreeOther cursor short]

end AgreeBelow

/-- The body keeps parsers advancing, and calls the one it is given only after a character was
read: it answers alike for parsers that answer alike on shorter texts. -/
structure Guarded (body : Parser α → Parser α) : Prop where
  advances : ∀ {inner : Parser α}, inner.Advances → (body inner).Advances
  agree : ∀ {bound : Nat} {left right : Parser α}, left.Advances → right.Advances →
    AgreeBelow bound left right → AgreeBelow (bound + 1) (body left) (body right)

/-- The parser of a body with `depth` calls below one another. -/
def approximation (body : Parser α → Parser α) (depth : Nat) : Parser α :=
  unfold (onlyRule body) depth ⟨0, Nat.one_pos⟩

section Guarded

variable {body : Parser α → Parser α}

theorem approximation_succ (body : Parser α → Parser α) (depth : Nat) :
    approximation body (depth + 1) = body (approximation body depth) := by
  apply Parser.ext
  funext cursor
  exact parse_unfold_succ (onlyRule body) depth 0 cursor

private theorem Guarded.advances_approximation (guarded : Guarded body) (depth : Nat) :
    (approximation body depth).Advances := by
  induction depth with
  | zero =>
      intro cursor value next read
      contradiction
  | succ depth inductionHypothesis =>
      rw [approximation_succ]
      exact guarded.advances inductionHypothesis

/-- Where the text is shorter than both depths, they give the same answer. -/
private theorem Guarded.agree_approximation (guarded : Guarded body) (bound depth other : Nat)
    (depthSuffices : bound ≤ depth) (otherSuffices : bound ≤ other) :
    AgreeBelow bound (approximation body depth) (approximation body other) := by
  induction bound generalizing depth other with
  | zero =>
      intro cursor short
      omega
  | succ bound inductionHypothesis =>
      cases depth with
      | zero => omega
      | succ depth =>
          cases other with
          | zero => omega
          | succ other =>
              rw [approximation_succ, approximation_succ]
              exact guarded.agree (guarded.advances_approximation depth)
                (guarded.advances_approximation other)
                (inductionHypothesis depth other (by omega) (by omega))

theorem Guarded.agree_fix (guarded : Guarded body) (depth : Nat) :
    AgreeBelow depth (approximation body depth) (fix body) := by
  intro cursor short
  have parseEq : (fix body).parse cursor = (approximation body cursor.horizon).parse cursor :=
    parse_fix body cursor
  rw [parseEq]
  exact guarded.agree_approximation (cursor.unread.length + 1) depth cursor.horizon (by omega)
    (by unfold Cursor.horizon; omega) cursor (by omega)

theorem Guarded.advances_fix (guarded : Guarded body) : (fix body).Advances := by
  intro cursor value next read
  rw [← guarded.agree_fix (cursor.unread.length + 1) cursor (by omega)] at read
  exact guarded.advances_approximation _ cursor value next read

/-- The parser of a guarded body satisfies its definition. -/
theorem Guarded.fix_eq (guarded : Guarded body) : fix body = body (fix body) := by
  apply Parser.ext
  funext cursor
  have inner := guarded.agree_fix (cursor.unread.length + 1)
  have outer := guarded.agree (guarded.advances_approximation _) guarded.advances_fix inner
  rw [← guarded.agree_fix (cursor.unread.length + 2) cursor (by omega), approximation_succ]
  exact outer cursor (by omega)

/-- What a run that does not return has, and a run of the body has if those of the parser it is
given do, the runs of the fixed point have. By induction on the depth to which it unfolds. -/
theorem Guarded.parse_fix_induction (guarded : Guarded body) (holds : Cursor → Outcome α → Prop)
    (endless : ∀ cursor, holds cursor .endless)
    (step : ∀ {inner : Parser α}, inner.Advances →
      (∀ cursor, holds cursor (inner.parse cursor)) →
      ∀ cursor, holds cursor ((body inner).parse cursor))
    (cursor : Cursor) : holds cursor ((fix body).parse cursor) := by
  have unfolded : ∀ depth cursor, holds cursor ((approximation body depth).parse cursor) := by
    intro depth
    induction depth with
    | zero => exact endless
    | succ depth inductionHypothesis =>
        rw [approximation_succ]
        exact step (guarded.advances_approximation depth) inductionHypothesis
  rw [← guarded.agree_fix (cursor.unread.length + 1) cursor (Nat.lt_succ_self _)]
  exact unfolded _ cursor

/-- The parser where fewer than `bound` characters are left, and a failure elsewhere. -/
def below (parser : Parser α) (bound : Nat) : Parser α where
  parse cursor :=
    if cursor.unread.length < bound then parser.parse cursor else .failure .emptyRepetition

theorem agreeBelow_below (parser : Parser α) (bound : Nat) :
    AgreeBelow bound parser (parser.below bound) := by
  intro cursor short
  exact (if_pos short).symm

theorem Advances.below {parser : Parser α} (advances : parser.Advances) (bound : Nat) :
    (parser.below bound).Advances := by
  intro cursor value next read
  by_cases short : cursor.unread.length < bound
  · rw [← agreeBelow_below parser bound cursor short] at read
    exact advances cursor value next read
  · have failed : (parser.below bound).parse cursor = .failure .emptyRepetition := if_neg short
    rw [failed] at read
    contradiction

/-- A parser that reads a language on short texts reads the short texts of it, cut off above. -/
theorem reads_below {parser : Parser α} {language : Language α} {bound : Nat}
    (reads : ∀ cursor : Cursor, cursor.unread.length < bound → parser.ReadsAt language cursor) :
    (parser.below bound).Reads (language.below bound) := by
  intro cursor
  by_cases short : cursor.unread.length < bound
  · have same := (agreeBelow_below parser bound cursor short).symm
    refine ((reads cursor short).of_parse_eq same).congr fun value text rest unreadEq => ?_
    rw [unreadEq] at short
    exact ⟨fun member => ⟨short, member⟩, And.right⟩
  · refine readsAt_of_failure (if_neg short) fun value text rest unreadEq member => ?_
    rw [unreadEq] at short
    exact short member.1

/-- If a body turns a parser of any language into one of `step` of it, its fixed point reads the
language that `step` gives back from its own shorter texts. By induction on what is left to read:
below it the fixed point is known to read the language, and the body looks no further. -/
theorem reads_fix {step : Language α → Language α} {language : Language α}
    (guarded : Guarded body)
    (reads_body : ∀ {inner : Parser α} {inside : Language α},
      inner.Reads inside → (body inner).Reads (step inside))
    (fixed : ∀ value text rest,
      language value text rest ↔ step (language.below (text ++ rest).length) value text rest) :
    (fix body).Reads language := by
  intro cursor
  induction lengthEq : cursor.unread.length using Nat.strongRecOn generalizing cursor with
  | ind length inductionHypothesis =>
      let shorter := (fix body).below length
      have shorterReads : shorter.Reads (language.below length) :=
        reads_below fun before short => inductionHypothesis _ short before rfl
      have agree : AgreeBelow (length + 1) (body (fix body)) (body shorter) :=
        guarded.agree guarded.advances_fix (guarded.advances_fix.below length)
          (agreeBelow_below (fix body) length)
      have parseEq : (fix body).parse cursor = (body shorter).parse cursor := by
        rw [guarded.fix_eq]
        exact agree cursor (by omega)
      refine ((reads_body shorterReads cursor).of_parse_eq parseEq).congr
        fun value text rest unreadEq => ?_
      rw [unreadEq] at lengthEq
      rw [fixed value text rest, lengthEq]

end Guarded

end Parser

end TextGrammar
