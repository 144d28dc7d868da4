import TextGrammar.Arithmetic.Chain
import TextGrammar.Grammar.Derived
import TextGrammar.Proofs.Expression
import TextGrammar.Proofs.Grammar.Tracking
import TextGrammar.Proofs.LoopBounds
import TextGrammar.Proofs.OrderedChoice
import TextGrammar.Proofs.Padding

/-!
Contract: chains of operators as right-nested trees.

Owns:
- `Link`, a number with the operator after it, and the texts and functions of links;
- `rightNested`, the tree of a chain, and `parenthesised`, its text with all parentheses;
- that a chain is computed to the value of its tree, which the parser of expressions reads from the
  parenthesised text;
- that a chain which breaks off after an operator fails as the number that is missing there.

The loop takes each number together with its operator and the blanks behind it. It reads the last
number as well and, with no operator behind, gives it back. Blanks belong to the operator before
them or to the number after them, so links are followed up to the blanks that stand in front.
-/

namespace TextGrammar.Arithmetic

open TextGrammar.Parser

/-- A number and the digits that write it. -/
structure WrittenNumber where
  value : UInt64
  digits : List Char
  numeral : Numeral value digits

/-- A number and the operator after it, with the blanks in front of both. -/
structure Link where
  before : List Char
  number : WrittenNumber
  gap : List Char
  operator : Operator
  beforeBlanks : Blanks before
  gapBlanks : Blanks gap

/-- The function that waits for the right operand. -/
def Link.function (link : Link) : Float → Float :=
  link.operator.apply link.number.value.toFloat

/-- The links as they are written, with `tail` after them. -/
def written : List Link → List Char → List Char
  | [], tail => tail
  | link :: others, tail => link.before ++
      (link.number.digits ++ (link.gap ++ link.operator.symbol :: written others tail))

/-- The tree in which each operator has everything after it as its right operand. -/
def rightNested : List Link → WrittenNumber → Tree
  | [], last => .literal last.value.toFloat
  | link :: others, last =>
      .operation link.operator (.literal link.number.value.toFloat) (rightNested others last)

/-- The text of the tree, with single spaces around its operators. -/
def parenthesised : List Link → WrittenNumber → List Char
  | [], last => last.digits
  | link :: others, last =>
      '(' :: (link.number.digits ++
        ' ' :: link.operator.symbol :: ' ' :: (parenthesised others last ++ [')']))

theorem resolve_eq_eval (links : List Link) (last : WrittenNumber) :
    resolve (links.map Link.function) last.value.toFloat = (rightNested links last).eval := by
  induction links with
  | nil => rfl
  | cons link others inductionHypothesis => exact congrArg link.function inductionHypothesis

theorem rendering_parenthesised (links : List Link) (last : WrittenNumber) :
    Tree.Rendering (rightNested links last) (parenthesised links last) := by
  have single : Blanks [' '] := by decide
  induction links with
  | nil => exact .literal last.numeral
  | cons link others inductionHypothesis =>
      have rendering : Tree.Rendering (rightNested (link :: others) last) _ :=
        .operation (.literal link.number.numeral) inductionHypothesis blanks_nil single single
          blanks_nil
      simpa [parenthesised] using rendering

/-! ### One operator out of four -/

section Choice

variable {α : Type} {items : Operator → Parser α} {cursor next : Cursor}

theorem parse_choice_all (items : Operator → Parser α) (cursor : Cursor) :
    (choice (Operator.all.map items)).parse cursor =
      ((items .add).parse cursor).orElse fun _ => ((items .sub).parse cursor).orElse fun _ =>
        ((items .mul).parse cursor).orElse fun _ => (items .div).parse cursor := rfl

theorem parse_choice_of_success (operator : Operator) {value : α}
    (read : (items operator).parse cursor = .success value next)
    (others : ∀ other, other ≠ operator → ∃ reason, (items other).parse cursor = .failure reason) :
    (choice (Operator.all.map items)).parse cursor = .success value next := by
  obtain ⟨front, back, split, absent⟩ := List.eq_append_cons_of_mem operator.mem_all
  refine parse_firstSuccess_eq_success_iff.mpr
    ⟨front.map items, items operator, back.map items, ?_, fun item member => ?_, read⟩
  · exact (congrArg (List.map items) split).trans List.map_append
  · obtain ⟨other, otherMember, rfl⟩ := List.mem_map.mp member
    exact others other fun same => absent (same ▸ otherMember)

/-- The last operator is the one that a failure is about. -/
theorem parse_choice_of_failures (reasons : Operator → Failure)
    (failed : ∀ operator, (items operator).parse cursor = .failure (reasons operator)) :
    (choice (Operator.all.map items)).parse cursor = .failure (reasons .div) := by
  rw [parse_choice_all, failed, failed, failed, failed]
  rfl

end Choice

/-! ### One link -/

section Link

variable {cursor after : Cursor} {value : UInt64} {reason : Failure}

theorem parse_spacedNumber (cursor : Cursor) :
    spacedNumber.parse cursor = (natural.parse cursor.pastBlanks).map UInt64.toFloat := by
  rw [spacedNumber, parse_second_blanks, number, parse_map]

theorem parse_pendingFor (operator : Operator) (cursor : Cursor) :
    (pendingFor operator).parse cursor =
      (natural.parse cursor.pastBlanks).andThen fun value after =>
        ((char operator.symbol).parse after.pastBlanks).andThen fun _ next =>
          .success (operator.apply value.toFloat) next.pastBlanks := by
  simp only [pendingFor, parse_map, parse_first, parse_spacedNumber, parse_padded,
    Outcome.map_eq_andThen, Outcome.andThen_assoc, Outcome.success_andThen]

/-- Without a number there is no operator to look for, whichever it is. -/
theorem parse_pending_of_failure (failed : natural.parse cursor.pastBlanks = .failure reason) :
    pending.parse cursor = .failure reason := by
  refine parse_choice_of_failures (fun _ => reason) fun operator => ?_
  rw [parse_pendingFor, failed, Outcome.failure_andThen]

theorem parse_pending_of_operator {operator : Operator}
    (read : natural.parse cursor.pastBlanks = .success value after)
    (found : after.pastBlanks.current = some operator.symbol) :
    pending.parse cursor =
      .success (operator.apply value.toFloat) after.pastBlanks.next.pastBlanks := by
  refine parse_choice_of_success operator ?_ fun other different => ?_
  · rw [parse_pendingFor, read, Outcome.success_andThen, parse_char_of_current found,
      Outcome.success_andThen]
  · have otherSymbol : after.pastBlanks.current ≠ some other.symbol := by
      rw [found, Ne, Option.some.injEq, Operator.symbol_inj]
      exact different.symm
    exact ⟨_, by rw [parse_pendingFor, read, Outcome.success_andThen,
      parse_char_of_ne otherSymbol, Outcome.failure_andThen]⟩

theorem parse_pending_of_no_operator
    (read : natural.parse cursor.pastBlanks = .success value after)
    (different : ∀ operator : Operator, after.pastBlanks.current ≠ some operator.symbol) :
    pending.parse cursor =
      .failure (.charMismatch Operator.div.symbol after.pastBlanks.current) := by
  refine parse_choice_of_failures
    (fun operator => .charMismatch operator.symbol after.pastBlanks.current)
    fun operator => ?_
  rw [parse_pendingFor, read, Outcome.success_andThen, parse_char_of_ne (different operator),
    Outcome.failure_andThen]

theorem progressive_pending : pending.Progressive := by
  have each : ∀ operator, (pendingFor operator).Progressive := by
    intro operator
    have numberProgressive : number.Progressive := progressive_natural.map UInt64.toFloat
    have symbolRegular := (progressive_char operator.symbol).toRegular.padded
    exact ((numberProgressive.second regular_blanks).first symbolRegular).map operator.apply
  refine (each .add).firstSuccess fun other member => ?_
  simp only [Alternatives.map, Operator.all, List.map_cons, List.map_nil, List.mem_cons,
    List.not_mem_nil, or_false] at member
  rcases member with rfl | rfl | rfl
  · exact each .sub
  · exact each .mul
  · exact each .div

theorem WrittenNumber.parse_natural (number : WrittenNumber) {rest : List Char}
    (unreadEq : cursor.unread = number.digits ++ rest)
    (stopped : ¬ StartsWith Char.isDigit rest) :
    ∃ next, natural.parse cursor = .success number.value next ∧ next.unread = rest :=
  ⟨_, (reads_natural cursor).success unreadEq ⟨number.numeral, stopped⟩,
    Cursor.unread_advance_length unreadEq⟩

/-- Digits are no blanks, so those in front of a number are all there are. -/
theorem WrittenNumber.dropWhile_append (number : WrittenNumber) {before : List Char}
    (blanks : Blanks before) (rest : List Char) :
    (before ++ (number.digits ++ rest)).dropWhile isBlank = number.digits ++ rest := by
  rw [blanks.dropWhile_append,
    dropWhile_of_not_startsWith (number.numeral.not_startsWith_blank rest)]

/-- A link is read together with the blanks after its operator. -/
theorem Link.parse_pending (link : Link) {rest : List Char}
    (unreadEq : cursor.pastBlanks.unread =
      link.number.digits ++ (link.gap ++ link.operator.symbol :: rest)) :
    ∃ next, pending.parse cursor = .success link.function next ∧
      next.unread = rest.dropWhile isBlank := by
  have noDigit : ¬ StartsWith Char.isDigit (link.gap ++ link.operator.symbol :: rest) :=
    link.gapBlanks.not_startsWith_digit (not_startsWith_cons link.operator.isDigit_symbol rest)
  obtain ⟨after, read, afterEq⟩ := link.number.parse_natural unreadEq noDigit
  have symbolEq : after.pastBlanks.unread = link.operator.symbol :: rest :=
    Cursor.unread_pastBlanks_of_append link.gapBlanks afterEq
      (not_startsWith_cons link.operator.isBlank_symbol rest)
  refine ⟨_, parse_pending_of_operator read (Cursor.current_of_unread symbolEq), ?_⟩
  rw [Cursor.unread_pastBlanks, Cursor.unread_next_of_unread symbolEq]

end Link

/-! ### The chain -/

section Chain

variable {cursor : Cursor} {tail : List Char}

theorem parse_chain (cursor : Cursor) :
    chain.parse cursor = (pending.many.parse cursor).andThen fun functions next =>
      (natural.parse next.pastBlanks).map fun last => resolve functions last.toFloat := by
  simp only [chain, parse_map, parse_both, parse_spacedNumber, Outcome.map_eq_andThen,
    Outcome.andThen_assoc, Outcome.success_andThen]

/-- The loop takes all links, and what it leaves after them are blanks at most and then the text
behind. Each round leaves no blanks in front of the next link. -/
theorem exists_parse_many_pending
    (stops : ∀ place : Cursor, place.pastBlanks.unread = tail.dropWhile isBlank →
      ∃ reason, pending.parse place = .failure reason)
    (links : List Link)
    (unreadEq : cursor.pastBlanks.unread = (written links tail).dropWhile isBlank) :
    ∃ last, pending.many.parse cursor = .success (links.map Link.function) last ∧
      last.pastBlanks.unread = tail.dropWhile isBlank := by
  induction links generalizing cursor with
  | nil =>
      obtain ⟨reason, stopped⟩ := stops cursor unreadEq
      exact ⟨cursor, parse_many_of_failure stopped, unreadEq⟩
  | cons link others inductionHypothesis =>
      rw [written, link.number.dropWhile_append link.beforeBlanks] at unreadEq
      obtain ⟨next, read, nextEq⟩ := link.parse_pending unreadEq
      have noBlank := not_startsWith_dropWhile isBlank (written others tail)
      obtain ⟨last, readOthers, lastEq⟩ := @inductionHypothesis next (by
        rw [Cursor.unread_pastBlanks, nextEq, dropWhile_of_not_startsWith noBlank])
      refine ⟨last, ?_, lastEq⟩
      rw [parse_many_of_success progressive_pending.consumes read, readOthers,
        Outcome.map_success, List.map_cons]

/-- Without an operator behind it, the last number is given back by the loop and read after it. -/
theorem parse_chain_of_written (links : List Link) {before : List Char} (last : WrittenNumber)
    (beforeBlanks : Blanks before) (noDigit : ¬ StartsWith Char.isDigit tail)
    (noOperator : ∀ (gap : List Char) (operator : Operator) (rest : List Char), Blanks gap →
      tail ≠ gap ++ operator.symbol :: rest)
    (unreadEq : cursor.unread = written links (before ++ (last.digits ++ tail))) :
    ∃ next, chain.parse cursor = .success (rightNested links last).eval next ∧
      next.unread = tail := by
  have lastEq := last.dropWhile_append beforeBlanks tail
  -- The loop ends at the last number: it reads it, and finds no operator behind the blanks.
  have stops : ∀ place : Cursor,
      place.pastBlanks.unread = (before ++ (last.digits ++ tail)).dropWhile isBlank →
      ∃ reason, pending.parse place = .failure reason := by
    intro place placeEq
    rw [lastEq] at placeEq
    obtain ⟨after, read, afterEq⟩ := last.parse_natural placeEq noDigit
    refine ⟨_, parse_pending_of_no_operator read fun operator found => ?_⟩
    obtain ⟨rest, restEq⟩ := Cursor.exists_unread_of_current found
    rw [Cursor.unread_pastBlanks, afterEq] at restEq
    refine noOperator _ operator rest (blanks_takeWhile tail) ?_
    rw [← restEq, List.takeWhile_append_dropWhile]
  obtain ⟨place, readLinks, placeEq⟩ := exists_parse_many_pending stops links (by
    rw [Cursor.unread_pastBlanks, unreadEq])
  rw [lastEq] at placeEq
  obtain ⟨next, read, nextEq⟩ := last.parse_natural placeEq noDigit
  refine ⟨next, ?_, nextEq⟩
  rw [parse_chain, readLinks, Outcome.success_andThen, read, Outcome.map_success, resolve_eq_eval]

/-- Numbers do not depend on what was read before them. -/
theorem parse_natural_of_unread_eq {place other : Cursor} {reason : Failure}
    (failed : natural.parse place = .failure reason) (same : place.unread = other.unread) :
    natural.parse other = .failure reason := by
  let noRule : Family fun _ : Empty => Unit := fun rule => rule.elim
  have tracks : Tracks place.unread natural natural := by
    rw [← Grammar.parser_natural noRule]
    exact Grammar.natural.parser_tracks fun rule => rule.elim
  have outcomes := tracks place other (List.suffix_refl _) same
  rw [failed] at outcomes
  generalize natural.parse other = outcome at outcomes
  cases outcomes
  rfl

/-- Where a number is missing after the links, the loop has ended there, and nothing is left that
could read it. -/
theorem parse_chain_of_missing (links : List Link) {gap : List Char} (gapBlanks : Blanks gap)
    {place : Cursor} {reason : Failure} (failed : natural.parse place = .failure reason)
    (noBlank : ¬ StartsWith isBlank place.unread)
    (unreadEq : cursor.unread = written links (gap ++ place.unread)) :
    chain.parse cursor = .failure reason := by
  have placeEq : (gap ++ place.unread).dropWhile isBlank = place.unread := by
    rw [gapBlanks.dropWhile_append, dropWhile_of_not_startsWith noBlank]
  have fails : ∀ {other : Cursor}, other.pastBlanks.unread =
      (gap ++ place.unread).dropWhile isBlank → natural.parse other.pastBlanks = .failure reason :=
    fun otherEq => parse_natural_of_unread_eq failed (by rw [otherEq, placeEq])
  obtain ⟨last, readLinks, lastEq⟩ := exists_parse_many_pending
    (fun other otherEq => ⟨reason, parse_pending_of_failure (fails otherEq)⟩) links (by
      rw [Cursor.unread_pastBlanks, unreadEq])
  rw [parse_chain, readLinks, Outcome.success_andThen, fails lastEq, Outcome.map_failure]

theorem parse_tree_of_rendering {tree : Tree} {text : List Char}
    (rendering : Tree.Rendering tree text) :
    ∃ next, Tree.parser.parse (Cursor.ofChars text) = .success tree next ∧ next.unread = [] := by
  rw [Tree.reads_language.success_leaving_iff]
  refine ⟨text, ?_, rendering, fun _ => not_startsWith_nil _⟩
  rw [Cursor.unread_ofChars, List.append_nil]

/-- A chain comes to the value of its right-nested tree, and stops before a tail that begins neither
with a digit nor, after any blanks, with an operator. The parser of expressions reads that tree from
its text in parentheses, whatever blanks there are in it. A chain whose last operator has no number
behind it fails as that number does, so no operator is given back. -/
theorem chain_eq_eval_rightNested (links : List Link) :
    (∀ (before : List Char) (last : WrittenNumber) (tail : List Char) (cursor : Cursor),
      Blanks before → ¬ StartsWith Char.isDigit tail →
      (∀ (gap : List Char) (operator : Operator) (rest : List Char), Blanks gap →
        tail ≠ gap ++ operator.symbol :: rest) →
      cursor.unread = written links (before ++ (last.digits ++ tail)) →
      ∃ next, chain.parse cursor = .success (rightNested links last).eval next ∧
        next.unread = tail) ∧
    (∀ last : WrittenNumber, Tree.Rendering (rightNested links last) (parenthesised links last) ∧
      ∀ text, Tree.Rendering (rightNested links last) text →
        ∃ next, Tree.parser.parse (Cursor.ofChars text) = .success (rightNested links last) next ∧
          next.unread = []) ∧
    ∀ (gap : List Char) (place cursor : Cursor) (reason : Failure), Blanks gap →
      natural.parse place = .failure reason → ¬ StartsWith isBlank place.unread →
      cursor.unread = written links (gap ++ place.unread) →
      chain.parse cursor = .failure reason := by
  refine ⟨?_, ?_, ?_⟩
  · intro before last tail cursor beforeBlanks noDigit noOperator unreadEq
    exact parse_chain_of_written links last beforeBlanks noDigit noOperator unreadEq
  · intro last
    exact ⟨rendering_parenthesised links last, fun _ => parse_tree_of_rendering⟩
  · intro gap place cursor reason gapBlanks failed noBlank unreadEq
    exact parse_chain_of_missing links gapBlanks failed noBlank unreadEq

/-- Two operators before a semicolon, and one with a letter behind it. -/
theorem chain_of_three_numbers_eq_eval :
    (∃ next, chain.parse (Cursor.ofText " 1 + 2*\t3;") =
        .success (Operator.add.apply (UInt64.toFloat 1)
          (Operator.mul.apply (UInt64.toFloat 2) (UInt64.toFloat 3))) next ∧
      next.unread = [';']) ∧
    (∃ tree next, Tree.parser.parse (Cursor.ofChars "(1 + (2 * 3))".toList) = .success tree next ∧
      next.unread = [] ∧ tree.eval = Operator.add.apply (UInt64.toFloat 1)
        (Operator.mul.apply (UInt64.toFloat 2) (UInt64.toFloat 3))) ∧
    chain.parse (Cursor.ofText "1 + x") = .failure .emptyRepetition := by
  have single : Blanks [' '] := by simp [Blanks, isBlank]
  have nothing : Blanks [] := by simp [Blanks]
  let one : WrittenNumber := ⟨1, ['1'], by simp, by simp, rfl⟩
  let two : WrittenNumber := ⟨2, ['2'], by simp, by simp, rfl⟩
  let three : WrittenNumber := ⟨3, ['3'], by simp, by simp, rfl⟩
  let plus : Link := ⟨[' '], one, [' '], .add, single, single⟩
  let times : Link := ⟨[' '], two, [], .mul, single, nothing⟩
  let dangling : Link := ⟨[], one, [' '], .add, nothing, single⟩
  obtain ⟨computed, trees, _⟩ := chain_eq_eval_rightNested [plus, times]
  obtain ⟨_, _, missing⟩ := chain_eq_eval_rightNested [dangling]
  refine ⟨?_, ?_, ?_⟩
  · refine computed ['\t'] three [';'] _ (by simp [Blanks, isBlank]) (by decide) ?_ rfl
    intro gap operator rest _
    cases gap with
    | nil => cases operator <;> simp [Operator.symbol]
    | cons head tail => simp
  · obtain ⟨rendering, reads⟩ := trees three
    have textEq : parenthesised [plus, times] three = "(1 + (2 * 3))".toList := rfl
    rw [textEq] at rendering
    obtain ⟨next, read, nextEq⟩ := reads _ rendering
    exact ⟨_, next, read, nextEq, rfl⟩
  · exact missing [' '] (.inside [] ['x']) _ .emptyRepetition single rfl (by decide) rfl

/-- In front of blanks there is never a number, but the chain skips them all: two blanks before a
number can be taken for one in front of a place where no number stands. -/
theorem not_chain_fails_where_blanks_follow :
    ¬ ∀ (links : List Link) (gap : List Char) (place cursor : Cursor) (reason : Failure),
      Blanks gap → natural.parse place = .failure reason →
      cursor.unread = written links (gap ++ place.unread) →
      chain.parse cursor = .failure reason := by
  intro fails
  have single : Blanks [' '] := by simp [Blanks, isBlank]
  have failed := fails [] [' '] (.inside [' '] [' ', '4', '2']) (Cursor.ofText "  42")
    .emptyRepetition single rfl rfl
  have read : chain.parse (Cursor.ofText "  42") =
      .success (UInt64.toFloat 42) (.atEnd ['2', '4', ' ', ' ']) := rfl
  rw [read] at failed
  contradiction

end Chain

end TextGrammar.Arithmetic
