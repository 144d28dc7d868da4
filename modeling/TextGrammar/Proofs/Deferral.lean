import TextGrammar.Grammar.Basic
import TextGrammar.Parser.Deferred

/-!
Contract: a deferred parser is built once, and what it answers does not depend on its history.

Owns:
- `Deferred.Faithful`, what holds of a deferred parser from its making on: one run keeps it, and so
  does every list of runs;
- that after each run the parser has been built exactly once;
- that each run answers what a parser built for it alone answers, and so the state of a deferred
  parser may be left out of the grammars that it stands in.
-/

namespace TextGrammar.Deferred

variable {α : Type} {build : Unit → Parser α} {deferred : Deferred α}

/-- The parser is still built by `build`. If it is there, it is what building gives and was built
once, and if it is not, it was never built. -/
structure Faithful (build : Unit → Parser α) (deferred : Deferred α) : Prop where
  build_eq : deferred.build = build
  built_eq : ∀ parser, deferred.built = some parser → parser = build ()
  builds_eq : deferred.builds = if deferred.isBuilt then 1 else 0

theorem faithful_ofBuild (build : Unit → Parser α) : Faithful build (ofBuild build) where
  build_eq := rfl
  built_eq _ built := by contradiction
  builds_eq := rfl

/-! ### One run -/

theorem isBuilt_force (deferred : Deferred α) : deferred.force.2.isBuilt = true := by
  cases built : deferred.built with
  | none => simp [force, isBuilt, built]
  | some parser => simp [force, isBuilt, built]

theorem Faithful.force_fst (faithful : Faithful build deferred) :
    deferred.force.1 = build () := by
  cases built : deferred.built with
  | none => simp [force, built, faithful.build_eq]
  | some parser =>
      have parserEq : parser = build () := faithful.built_eq parser built
      simp [force, built, parserEq]

/-- Building happens at the first run, and what was built stays. -/
theorem Faithful.force_snd (faithful : Faithful build deferred) :
    Faithful build deferred.force.2 := by
  cases built : deferred.built with
  | some parser =>
      have unchanged : deferred.force.2 = deferred := by simp [force, built]
      rw [unchanged]
      exact faithful
  | none =>
      have neverBuilt : deferred.builds = 0 := by
        rw [faithful.builds_eq, isBuilt, built]
        rfl
      have forced : deferred.force.2 = ⟨deferred.build, some (deferred.build ()), 1⟩ := by
        simp [force, built, neverBuilt]
      rw [forced, faithful.build_eq]
      refine ⟨rfl, fun parser found => ?_, rfl⟩
      cases found
      rfl

theorem Faithful.builds_eq_one (faithful : Faithful build deferred)
    (isBuilt : deferred.isBuilt = true) : deferred.builds = 1 := by
  rw [faithful.builds_eq, if_pos isBuilt]

theorem Faithful.parse_eq (faithful : Faithful build deferred) (cursor : Cursor) :
    deferred.parse cursor = ((build ()).parse cursor, deferred.force.2) := by
  rw [parse, faithful.force_fst]

/-- A deferred grammar denotes what its parser answers in any state it may be in. -/
theorem Faithful.parse_grammar {Rule : Type} {Values : Rule → Type}
    {grammar : Unit → Grammar Values α} {self : Parser.Family Values}
    (faithful : Faithful (fun _ => (grammar ()).parser self) deferred) (cursor : Cursor) :
    ((Grammar.deferred grammar).parser self).parse cursor = (deferred.parse cursor).1 := by
  rw [faithful.parse_eq]
  rfl

/-! ### Runs in turn -/

/-- Each run of a list leaves a parser that is built, and has been built once. -/
theorem Faithful.mem_parseAll (faithful : Faithful build deferred) {cursors : List Cursor}
    {outcome : Outcome α} {state : Deferred α}
    (member : (outcome, state) ∈ deferred.parseAll cursors) :
    Faithful build state ∧ state.isBuilt = true := by
  induction cursors generalizing deferred with
  | nil => contradiction
  | cons cursor cursors inductionHypothesis =>
      rcases List.mem_cons.mp member with first | later
      · cases first
        exact ⟨faithful.force_snd, isBuilt_force deferred⟩
      · exact inductionHypothesis faithful.force_snd later

/-- The outcomes of a list of runs are those of the parser that building gives. -/
theorem Faithful.outcomes_parseAll (faithful : Faithful build deferred) (cursors : List Cursor) :
    (deferred.parseAll cursors).map Prod.fst = cursors.map (build ()).parse := by
  induction cursors generalizing deferred with
  | nil => rfl
  | cons cursor cursors inductionHypothesis =>
      rw [parseAll, List.map_cons, List.map_cons, faithful.parse_eq,
        inductionHypothesis faithful.force_snd]

theorem Faithful.getElem?_outcome (faithful : Faithful build deferred) (cursors : List Cursor)
    (index : Nat) :
    ((deferred.parseAll cursors)[index]?).map Prod.fst = cursors[index]?.map (build ()).parse := by
  rw [← List.getElem?_map, faithful.outcomes_parseAll, List.getElem?_map]

theorem Faithful.exists_getElem?_parseAll (faithful : Faithful build deferred)
    {cursors : List Cursor} {index : Nat} {cursor : Cursor}
    (found : cursors[index]? = some cursor) :
    ∃ state, (deferred.parseAll cursors)[index]? = some ((build ()).parse cursor, state) ∧
      Faithful build state ∧ state.isBuilt = true := by
  have outcomeEq := faithful.getElem?_outcome cursors index
  rw [found, Option.map_some, Option.map_eq_some_iff] at outcomeEq
  obtain ⟨⟨outcome, state⟩, step, rfl⟩ := outcomeEq
  exact ⟨state, step, faithful.mem_parseAll (List.mem_of_getElem? step)⟩

theorem describe_of_isBuilt (isBuilt : deferred.isBuilt = true) :
    deferred.describe = "Lazy \x7b built: true \x7d" :=
  congrArg (fun built => "Lazy \x7b built: " ++ toString built ++ " \x7d") isBuilt

/-- Before its first run a deferred parser is not built and was never asked to be. After each of any
runs, whether they succeed or fail, it is built and has been built once, and the run has answered
what a parser built for it alone answers. So a cursor has the same outcome wherever it stands in any
two lists of runs: their order does not matter, nor how often one of them is repeated. -/
theorem built_once_and_independent_of_history (build : Unit → Parser α) :
    ((ofBuild build).builds = 0 ∧ (ofBuild build).isBuilt = false ∧
      (ofBuild build).describe = "Lazy \x7b built: false \x7d") ∧
    (∀ (cursors : List Cursor) (index : Nat) (cursor : Cursor), cursors[index]? = some cursor →
      ∃ state,
        ((ofBuild build).parseAll cursors)[index]? = some ((build ()).parse cursor, state) ∧
        state.builds = 1 ∧ state.isBuilt = true ∧
        state.describe = "Lazy \x7b built: true \x7d") ∧
    ∀ (cursors others : List Cursor) (index otherIndex : Nat),
      cursors[index]? = others[otherIndex]? →
      (((ofBuild build).parseAll cursors)[index]?).map Prod.fst =
        (((ofBuild build).parseAll others)[otherIndex]?).map Prod.fst := by
  have faithful := faithful_ofBuild build
  refine ⟨⟨rfl, rfl, rfl⟩, fun cursors index cursor found => ?_,
    fun cursors others index otherIndex same => ?_⟩
  · obtain ⟨state, step, stateFaithful, isBuilt⟩ := faithful.exists_getElem?_parseAll found
    exact ⟨state, step, stateFaithful.builds_eq_one isBuilt, isBuilt, describe_of_isBuilt isBuilt⟩
  · rw [faithful.getElem?_outcome, faithful.getElem?_outcome, same]

/-- A letter that is read, missed, and read again. -/
theorem letter_built_once_and_read_twice :
    [Cursor.ofText "xyz", Cursor.ofText "abc", Cursor.ofText "xyz"][1]? =
      some (Cursor.ofText "abc") ∧
    (∃ state,
      ((ofBuild fun _ => Parser.char 'x').parseAll
        [Cursor.ofText "xyz", Cursor.ofText "abc", Cursor.ofText "xyz"])[1]? =
          some (.failure (.charMismatch 'x' (some 'a')), state) ∧
      state.builds = 1 ∧ state.isBuilt = true ∧
      state.describe = "Lazy \x7b built: true \x7d") ∧
    [Cursor.ofText "xyz", Cursor.ofText "abc", Cursor.ofText "xyz"][2]? =
      [Cursor.ofText "xyz"][0]? ∧
    (((ofBuild fun _ => Parser.char 'x').parseAll
        [Cursor.ofText "xyz", Cursor.ofText "abc", Cursor.ofText "xyz"])[2]?).map Prod.fst =
      (((ofBuild fun _ => Parser.char 'x').parseAll [Cursor.ofText "xyz"])[0]?).map Prod.fst := by
  obtain ⟨_, builtOnce, independent⟩ :=
    built_once_and_independent_of_history fun _ => Parser.char 'x'
  have missed := builtOnce
    [Cursor.ofText "xyz", Cursor.ofText "abc", Cursor.ofText "xyz"] 1 (Cursor.ofText "abc") rfl
  exact ⟨rfl, missed, rfl, independent _ _ 2 0 rfl⟩

end TextGrammar.Deferred
