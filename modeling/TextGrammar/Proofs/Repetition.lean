import TextGrammar.Proofs.Progress

/-!
Contract: what the loops keep of the parsers in them, and how often they run them.

Owns:
- `NeverFails`, the parsers that do not fail, and that `optional` and `many` are among them;
- that combinators of parsers that return do so too;
- that the loops advance where the parsers in them do;
- that a repetition takes one run more than it reads values, and that a parser which consumes gives
  it no more values than there were characters.

Nothing here asks whether a loop returns. What a bound lets it answer is what it answers under every
larger bound, so the runs that a repetition takes can be counted by the bounds that suffice.
-/

namespace TextGrammar

namespace Parser

variable {α β γ : Type}

/-! ### Parsers that do not fail -/

/-- No run ends in a failure. -/
def NeverFails (parser : Parser α) : Prop :=
  ∀ cursor reason, parser.parse cursor ≠ .failure reason

theorem NeverFails.map {parser : Parser α} (neverFails : parser.NeverFails) (f : α → β) :
    (parser.map f).NeverFails := by
  intro cursor reason failed
  rw [parse_map, Outcome.map_eq_failure_iff] at failed
  exact neverFails cursor reason failed

theorem neverFails_optional (parser : Parser α) : parser.optional.NeverFails := by
  intro cursor reason
  rw [parse_optional]
  cases parser.parse cursor <;> simp

theorem repeatWithin_ne_failure (parser : Parser α) (runs : Nat) (cursor : Cursor)
    (reason : Failure) : repeatWithin parser runs cursor ≠ .failure reason := by
  induction runs generalizing cursor with
  | zero => simp
  | succ runs inductionHypothesis =>
      rw [repeatWithin_succ]
      cases parser.parse cursor with
      | success value next => simp [Outcome.map_eq_failure_iff, inductionHypothesis]
      | failure other => simp
      | endless => simp

theorem neverFails_many (parser : Parser α) : parser.many.NeverFails :=
  fun cursor reason => repeatWithin_ne_failure parser cursor.horizon cursor reason

/-! ### Parsers that return -/

theorem Total.bind {parser : Parser α} {next : α → Parser β} (total : parser.Total)
    (nextTotal : ∀ value, (next value).Total) : (parser.bind next).Total := by
  intro cursor
  have returns : (parser.parse cursor).Returns := total cursor
  exact returns.andThen fun value between => nextTotal value between

theorem Total.map {parser : Parser α} (total : parser.Total) (f : α → β) :
    (parser.map f).Total := by
  intro cursor
  have returns : (parser.parse cursor).Returns := total cursor
  exact returns.map f

theorem Total.orElse {preferred alternative : Parser α} (total : preferred.Total)
    (alternativeTotal : alternative.Total) : (preferred.orElse alternative).Total := by
  intro cursor
  have returns : (preferred.parse cursor).Returns := total cursor
  rw [parse_orElse]
  exact returns.orElse (alternativeTotal cursor)

theorem Total.both {left : Parser α} {right : Parser β} (total : left.Total)
    (rightTotal : right.Total) : (left.both right).Total := by
  rw [both_eq_bind]
  exact total.bind fun value => rightTotal.map (Prod.mk value)

theorem Total.first {kept : Parser α} {dropped : Parser β} (total : kept.Total)
    (droppedTotal : dropped.Total) : (first kept dropped).Total :=
  (total.both droppedTotal).map Prod.fst

theorem Total.second {dropped : Parser α} {kept : Parser β} (total : dropped.Total)
    (keptTotal : kept.Total) : (second dropped kept).Total :=
  (total.both keptTotal).map Prod.snd

/-- Before anything that advances, a parser that consumes makes the pair consume. -/
theorem Consumes.second {dropped : Parser α} {kept : Parser β} (consumes : dropped.Consumes)
    (keptAdvances : kept.Advances) : (second dropped kept).Consumes := by
  intro cursor value next read
  rw [parse_second, Outcome.andThen_eq_success_iff] at read
  obtain ⟨mark, between, readDropped, readKept⟩ := read
  have shorter := consumes cursor mark between readDropped
  have notLonger := keptAdvances.unread_length_le readKept
  omega

/-! ### Where the loops stop -/

theorem advances_succeed (value : α) : (succeed value).Advances := by
  intro cursor found next read
  cases read
  exact ⟨0, Nat.zero_le _, rfl⟩

theorem Advances.optional {parser : Parser α} (advances : parser.Advances) :
    parser.optional.Advances :=
  (advances.map some).orElse (advances_succeed none)

theorem Advances.element {parser : Parser α} {separator : Parser β} (advances : parser.Advances)
    (separatorAdvances : separator.Advances) : (element parser separator).Advances := by
  rw [element_eq_bind]
  exact advances.bind fun value =>
    (separatorAdvances.map fun _ => value).orElse (advances_succeed value)

theorem Advances.repeatWithin {parser : Parser α} (advances : parser.Advances) (runs : Nat) :
    Advances ⟨parser.repeatWithin runs⟩ := by
  induction runs with
  | zero =>
      intro cursor values last read
      contradiction
  | succ runs inductionHypothesis =>
      have round := advances.bind fun value => inductionHypothesis.map (value :: ·)
      intro cursor values last read
      rcases repeatWithin_succ_eq_success_iff.mp read with
        ⟨reason, failed, rfl, rfl⟩ | ⟨value, next, others, first, readOthers, rfl⟩
      · exact ⟨0, Nat.zero_le _, rfl⟩
      · exact round cursor (value :: others) last (by simp [first, readOthers])

theorem Advances.many {parser : Parser α} (advances : parser.Advances) : parser.many.Advances :=
  fun cursor => advances.repeatWithin cursor.horizon cursor

theorem parse_many1_eq_success_iff {parser : Parser α} {cursor next : Cursor} {values : List α} :
    parser.many1.parse cursor = .success values next ↔
      values ≠ [] ∧ parser.many.parse cursor = .success values next := by
  rw [parse_many1]
  cases parser.many.parse cursor with
  | failure reason => simp
  | endless => simp
  | success found last =>
      cases found with
      | nil =>
          simp only [Outcome.success_andThen, List.isEmpty_nil, if_true]
          refine ⟨fun same => by contradiction, fun ⟨filled, same⟩ => ?_⟩
          cases same
          exact absurd rfl filled
      | cons value others =>
          simp only [Outcome.success_andThen, List.isEmpty_cons, Bool.false_eq_true, if_false]
          refine ⟨fun same => ⟨?_, same⟩, And.right⟩
          cases same
          exact List.cons_ne_nil value others

theorem Advances.many1 {parser : Parser α} (advances : parser.Advances) :
    parser.many1.Advances :=
  fun cursor values next read =>
    advances.many cursor values next (parse_many1_eq_success_iff.mp read).2

theorem Advances.moreWithin {parser : Parser α} {separator : Parser β}
    (advances : parser.Advances) (separatorAdvances : separator.Advances) (rounds : Nat) :
    Advances ⟨parser.moreWithin separator rounds⟩ := by
  induction rounds with
  | zero =>
      intro cursor values last read
      contradiction
  | succ rounds inductionHypothesis =>
      have round := separatorAdvances.bind fun _ =>
        advances.bind fun value => inductionHypothesis.map (value :: ·)
      intro cursor values last read
      change parser.moreWithin separator (rounds + 1) cursor = _ at read
      rw [moreWithin_succ] at read
      cases separated : separator.parse cursor with
      | success mark after => exact round cursor values last (by simpa [separated] using read)
      | failure reason =>
          rw [separated] at read
          exact advances_succeed [] cursor values last read
      | endless => simp [separated] at read

theorem Advances.separatedList {parser : Parser α} {separator : Parser β}
    (advances : parser.Advances) (separatorAdvances : separator.Advances) :
    (separatedList parser separator).Advances := by
  have moreAdvances : Advances ⟨fun next => parser.moreWithin separator next.horizon next⟩ :=
    fun next => advances.moreWithin separatorAdvances next.horizon next
  rw [separatedList_eq_bind]
  exact advances.bind fun value => moreAdvances.map (value :: ·)

/-! ### How often the parser of a repetition runs -/

section Runs

variable {parser : Parser α} {cursor last : Cursor} {values : List α} {runs : Nat}

/-- A repetition takes a run for each value, and the one that fails. With fewer it is cut short, and
with more it answers the same. -/
theorem repeatWithin_eq_ite (read : repeatWithin parser runs cursor = .success values last)
    (bound : Nat) :
    repeatWithin parser bound cursor =
      if values.length + 1 ≤ bound then .success values last else .endless := by
  induction runs generalizing cursor values bound with
  | zero => contradiction
  | succ runs inductionHypothesis =>
      cases bound with
      | zero => simp
      | succ bound =>
          rw [repeatWithin_succ]
          rcases repeatWithin_succ_eq_success_iff.mp read with
            ⟨reason, failed, rfl, rfl⟩ | ⟨value, next, others, first, readOthers, rfl⟩
          · simp [failed]
          · rw [first]
            dsimp only
            -- Both bounds pay for this round, and what is left of them for the others.
            rw [inductionHypothesis readOthers bound]
            by_cases enough : others.length + 1 ≤ bound
            · simp [enough]
            · simp [enough]

/-- Every value of a repetition takes a character at least. -/
theorem length_add_unread_le_of_repeatWithin (consumes : parser.Consumes)
    (read : repeatWithin parser runs cursor = .success values last) :
    values.length + last.unread.length ≤ cursor.unread.length := by
  induction runs generalizing cursor values with
  | zero => contradiction
  | succ runs inductionHypothesis =>
      rcases repeatWithin_succ_eq_success_iff.mp read with
        ⟨reason, failed, rfl, rfl⟩ | ⟨value, next, others, first, readOthers, rfl⟩
      · exact Nat.le_of_eq (Nat.zero_add _)
      · have shorter := consumes cursor value next first
        have fewer := inductionHypothesis readOthers
        rw [List.length_cons]
        omega

end Runs

end Parser

end TextGrammar
