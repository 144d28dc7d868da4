import TextGrammar.Parser.Basic

/-!
Contract: parsers that are built when they are first run.

Owns:
- `Deferred`, a way to build a parser together with the parser once built and the number of times
  that building was asked for;
- running it, which hands back the new state beside the outcome;
- `Deferred.describe`, which tells whether it is built.
-/

namespace TextGrammar

/-- A parser that is built when it is first run and kept from then on. -/
structure Deferred (α : Type) where
  /-- How the parser is built. -/
  build : Unit → Parser α
  /-- The parser, once it is built. -/
  built : Option (Parser α)
  /-- How often the parser has been built. -/
  builds : Nat

namespace Deferred

variable {α : Type}

/-- A parser to be built by `build`, not built yet. -/
def ofBuild (build : Unit → Parser α) : Deferred α where
  build := build
  built := none
  builds := 0

/-- Whether the parser is built. -/
def isBuilt (deferred : Deferred α) : Bool :=
  deferred.built.isSome

/-- The parser, built now if it was not, and the state after that. -/
def force (deferred : Deferred α) : Parser α × Deferred α :=
  match deferred.built with
  | some parser => (parser, deferred)
  | none =>
      let parser := deferred.build ()
      (parser, { deferred with built := some parser, builds := deferred.builds + 1 })

/-- Run the parser at a cursor, building it first if needed. -/
def parse (deferred : Deferred α) (cursor : Cursor) : Outcome α × Deferred α :=
  (deferred.force.1.parse cursor, deferred.force.2)

/-- Run the parser at each cursor in turn: the outcomes, each with the state after it. -/
def parseAll (deferred : Deferred α) : List Cursor → List (Outcome α × Deferred α)
  | [] => []
  | cursor :: cursors =>
      let step := deferred.parse cursor
      step :: step.2.parseAll cursors

/-- Tells whether the parser is built. -/
def describe (deferred : Deferred α) : String :=
  "Lazy \x7b built: " ++ toString deferred.isBuilt ++ " \x7d"

end Deferred

end TextGrammar
