import TextGrammar.Arithmetic.Tree
import TextGrammar.Proofs.Lexemes
import TextGrammar.Proofs.Recursion

/-!
Contract: the exact language of expressions in parentheses.

Owns:
- `Rendering`, the texts that write an expression tree, with any blanks around its operands;
- that the body of the expression grammar is guarded, and so its recursion ends on every text;
- that the parser reads the renderings and nothing else.

A number is written with all the digits there are, so a rendering that is one number ends where no
digit follows. A rendering in parentheses ends with one, whatever follows.
-/

namespace TextGrammar.Arithmetic

open TextGrammar.Parser

namespace Operator

theorem isDigit_symbol (operator : Operator) : operator.symbol.isDigit = false := by
  cases operator <;> decide

theorem isBlank_symbol (operator : Operator) : isBlank operator.symbol = false := by
  cases operator <;> decide

/-- Operators are told apart by their characters. -/
theorem symbol_inj {operator other : Operator} :
    operator.symbol = other.symbol ↔ operator = other := by
  cases operator <;> cases other <;> decide

/-- The character of an operator. -/
def language : Language Operator :=
  fun operator text _ => text = [operator.symbol]

/-- A character that stands for an operator stands for one only. -/
theorem reads_symbol : parser.Reads language := by
  refine ((reads_anyOf (all.map symbol)).map ofSymbol).congr fun operator text rest => ?_
  constructor
  · rintro ⟨character, ⟨listed, rfl⟩, rfl⟩
    rw [List.contains_iff_mem, Alternatives.toList_map] at listed
    obtain ⟨operator, _, rfl⟩ := List.mem_map.mp listed
    rw [language, ofSymbol_symbol]
  · intro textEq
    refine ⟨operator.symbol, ⟨?_, textEq⟩, ofSymbol_symbol operator⟩
    rw [List.contains_iff_mem, Alternatives.toList_map]
    exact List.mem_map_of_mem (mem_all operator)

end Operator

namespace Tree

/-- The texts that write a tree: a number by its digits, an operation in parentheses, with any
blanks on both sides of its operands. -/
inductive Rendering : Tree → List Char → Prop where
  | literal {value : UInt64} {text : List Char} (numeral : Numeral value text) :
      Rendering (.literal value.toFloat) text
  | operation {operator : Operator} {left right : Tree}
      {leftText rightText beforeLeft afterLeft beforeRight afterRight : List Char}
      (leftRendering : Rendering left leftText) (rightRendering : Rendering right rightText)
      (beforeLeftBlanks : Blanks beforeLeft) (afterLeftBlanks : Blanks afterLeft)
      (beforeRightBlanks : Blanks beforeRight) (afterRightBlanks : Blanks afterRight) :
      Rendering (.operation operator left right)
        ('(' :: beforeLeft ++ leftText ++ afterLeft ++
          operator.symbol :: beforeRight ++ rightText ++ afterRight ++ [')'])

/-- A number begins with a digit, an operation with its parenthesis. -/
theorem Rendering.startsWith {tree : Tree} {text : List Char} (rendering : Rendering tree text) :
    StartsWith (fun character => character.isDigit || character == '(') text := by
  cases rendering with
  | literal numeral =>
      have digit := numeral.startsWith
      cases text with
      | nil => exact digit
      | cons head tail =>
          rw [startsWith_cons] at digit ⊢
          rw [digit, Bool.true_or]
  | operation => rfl

theorem Rendering.not_startsWith_blank {tree : Tree} {text : List Char}
    (rendering : Rendering tree text) (rest : List Char) :
    ¬ StartsWith isBlank (text ++ rest) := by
  have begins := rendering.startsWith
  cases text with
  | nil => exact absurd begins (not_startsWith_nil _)
  | cons head tail =>
      intro blank
      rw [startsWith_cons, Bool.or_eq_true, beq_iff_eq] at begins
      rw [List.cons_append, startsWith_cons] at blank
      rcases begins with digit | rfl
      · rw [isDigit_eq_false_of_isBlank blank] at digit
        contradiction
      · contradiction

/-- A rendering, and after the rendering of a number no digit. -/
def language : Language Tree :=
  fun tree text rest => Rendering tree text ∧
    ((∃ value, Numeral value text) → ¬ StartsWith Char.isDigit rest)

/-- An operation in parentheses, with texts of `inside` for its operands. -/
def operationLanguage (inside : Language Tree) : Language Tree :=
  ((Language.character '(').preceded
    (((inside.padded.paired Operator.language).paired inside.padded).followed
      (Language.character ')'))).mapped
    fun read => operation read.1.2 read.1.1 read.2

/-- A number, or an operation with texts of `inside` for its operands. -/
def step (inside : Language Tree) : Language Tree :=
  ((Language.numeral.mapped UInt64.toFloat).mapped literal).preferring
    (operationLanguage inside)

theorem reads_body {operand : Parser Tree} {inside : Language Tree}
    (reads : operand.Reads inside) :
    (body operand).Reads (step inside) := by
  have literalReads : literalParser.Reads
      ((Language.numeral.mapped UInt64.toFloat).mapped literal) :=
    (reads_natural.map UInt64.toFloat).map literal
  have operandReads := reads.padded
  exact literalReads.orElse (((reads_char '(').between
    ((operandReads.both Operator.reads_symbol).both operandReads) (reads_char ')')).map _)

private theorem agreeBelow_padded {bound : Nat} {left right : Parser Tree}
    (advances : left.Advances) (agree : AgreeBelow bound left right) :
    AgreeBelow bound (padded left) (padded right) :=
  (agreeBelow_refl bound blanks).second (agree.first (agreeBelow_refl bound blanks) advances)
    reads_blanks.advances

/-- Operands are read only after the parenthesis before them. -/
theorem guarded_body : Guarded body where
  advances := by
    intro operand advances
    have operandAdvances := advances.padded
    have literalAdvances : literalParser.Advances :=
      (reads_natural.advances.map UInt64.toFloat).map literal
    refine literalAdvances.orElse (Advances.map ?_ _)
    exact (reads_char '(').advances.second
      (((operandAdvances.both Operator.reads_symbol.advances).both operandAdvances).first
        (reads_char ')').advances)
  agree := by
    intro bound left right leftAdvances rightAdvances agree
    have operandAgree := agreeBelow_padded leftAdvances agree
    have operandAdvances := leftAdvances.padded
    have firstAdvances := operandAdvances.both Operator.reads_symbol.advances
    have firstAgree := operandAgree.both (agreeBelow_refl bound Operator.parser) operandAdvances
    have contentAgree := (firstAgree.both operandAgree firstAdvances).first
      (agreeBelow_refl bound (char ')')) (firstAdvances.both operandAdvances)
    have openingConsumes : (char '(').Consumes :=
      (reads_char '(').consumes (Language.proper_character '(')
    exact (agreeBelow_refl (bound + 1) literalParser).orElse
      ((contentAgree.second_of_consumes openingConsumes).map _)

/-- An operation is its parentheses, and two padded operands around the operator. -/
private theorem operationLanguage_iff (inside : Language Tree) (tree : Tree)
    (text rest : List Char) :
    operationLanguage inside tree text rest ↔
      ∃ operator left right leftText rightText, tree = operation operator left right ∧
        text = '(' :: (leftText ++ operator.symbol :: (rightText ++ [')'])) ∧
        inside.padded left leftText (operator.symbol :: (rightText ++ ')' :: rest)) ∧
        inside.padded right rightText (')' :: rest) := by
  constructor
  · intro member
    obtain ⟨⟨⟨left, operator⟩, right⟩, inParentheses, rfl⟩ := member
    obtain ⟨_, _, inner, rfl, ⟨_, rfl⟩, closed⟩ := inParentheses
    obtain ⟨_, operands, _, rfl, operandsMember, _, rfl⟩ := closed
    obtain ⟨_, rightText, rfl, leftAndOperator, rightMember⟩ := operandsMember
    obtain ⟨leftText, _, rfl, leftMember, rfl⟩ := leftAndOperator
    refine ⟨operator, left, right, leftText, rightText, rfl, ?_, ?_, rightMember⟩
    · simp only [List.append_assoc, List.cons_append, List.nil_append]
    · simpa only [List.append_assoc, List.cons_append, List.nil_append] using leftMember
  · intro found
    obtain ⟨operator, left, right, leftText, rightText, rfl, rfl, leftMember, rightMember⟩ := found
    have leftAndOperator : (inside.padded.paired Operator.language) (left, operator)
        (leftText ++ [operator.symbol]) (rightText ++ ')' :: rest) :=
      ⟨leftText, [operator.symbol], rfl, leftMember, rfl⟩
    have operandsMember : ((inside.padded.paired Operator.language).paired inside.padded)
        ((left, operator), right) (leftText ++ [operator.symbol] ++ rightText) (')' :: rest) :=
      ⟨leftText ++ [operator.symbol], rightText, rfl, leftAndOperator, rightMember⟩
    refine ⟨((left, operator), right), ?_, rfl⟩
    refine ⟨'(', ['('], leftText ++ [operator.symbol] ++ rightText ++ [')'], ?_, ⟨rfl, rfl⟩, ?_⟩
    · simp only [List.append_assoc, List.cons_append, List.nil_append]
    · exact ⟨')', _, [')'], rfl, operandsMember, rfl, rfl⟩

/-- Operands that render make an operation that does. -/
private theorem rendering_of_operationLanguage {inside : Language Tree} {tree : Tree}
    {text rest : List Char}
    (renders : ∀ operand operandText after, inside operand operandText after →
      Rendering operand operandText)
    (member : operationLanguage inside tree text rest) :
    Rendering tree text ∧ ¬ StartsWith Char.isDigit text := by
  rw [operationLanguage_iff] at member
  obtain ⟨operator, left, right, _, _, rfl, rfl, leftPadded, rightPadded⟩ := member
  obtain ⟨beforeLeft, leftText, afterLeft, rfl, beforeLeftBlanks, _, leftMember,
    afterLeftBlanks, _⟩ := leftPadded
  obtain ⟨beforeRight, rightText, afterRight, rfl, beforeRightBlanks, _, rightMember,
    afterRightBlanks, _⟩ := rightPadded
  have rendering : Rendering (.operation operator left right) _ :=
    .operation (renders left leftText _ leftMember) (renders right rightText _ rightMember)
      beforeLeftBlanks afterLeftBlanks beforeRightBlanks afterRightBlanks
  refine ⟨?_, not_startsWith_cons rfl _⟩
  simpa only [List.append_assoc, List.cons_append, List.nil_append] using rendering

/-- In front of the operator or of the closing parenthesis an operand has no more to read. -/
private theorem padded_of_rendering {tree : Tree} {before text after : List Char} {mark : Char}
    {rest : List Char} {bound : Nat} (rendering : Rendering tree text)
    (beforeBlanks : Blanks before) (afterBlanks : Blanks after)
    (notDigit : mark.isDigit = false) (notBlank : isBlank mark = false)
    (short : (text ++ (after ++ mark :: rest)).length < bound) :
    (language.below bound).padded tree (before ++ text ++ after) (mark :: rest) := by
  have contentStops : ¬ StartsWith isBlank (text ++ after ++ mark :: rest) := by
    rw [List.append_assoc]
    exact rendering.not_startsWith_blank (after ++ mark :: rest)
  have noDigit : ¬ StartsWith Char.isDigit (after ++ mark :: rest) :=
    afterBlanks.not_startsWith_digit (not_startsWith_cons notDigit rest)
  exact ⟨before, text, after, rfl, beforeBlanks, contentStops,
    ⟨short, rendering, fun _ => noDigit⟩, afterBlanks, not_startsWith_cons notBlank rest⟩

/-- The renderings are what the body makes of them: an operand in an operation is shorter than the
operation, and ends where its blanks and the operator or parenthesis begin. -/
private theorem language_iff_step (tree : Tree) (text rest : List Char) :
    language tree text rest ↔ step (language.below (text ++ rest).length) tree text rest := by
  constructor
  · intro member
    obtain ⟨rendering, clear⟩ := member
    cases rendering with
    | literal numeral => exact .inl ⟨_, ⟨_, ⟨numeral, clear ⟨_, numeral⟩⟩, rfl⟩, rfl⟩
    | @operation operator left right leftText rightText beforeLeft afterLeft beforeRight
        afterRight leftRendering rightRendering beforeLeftBlanks afterLeftBlanks
        beforeRightBlanks afterRightBlanks =>
        let whole := '(' :: beforeLeft ++ leftText ++ afterLeft ++
          operator.symbol :: beforeRight ++ rightText ++ afterRight ++ [')'] ++ rest
        have leftPadded : (language.below whole.length).padded left
            (beforeLeft ++ leftText ++ afterLeft)
            (operator.symbol :: (beforeRight ++ rightText ++ afterRight ++ ')' :: rest)) := by
          refine padded_of_rendering leftRendering beforeLeftBlanks afterLeftBlanks
            operator.isDigit_symbol operator.isBlank_symbol ?_
          simp only [whole, List.length_append, List.length_cons, List.length_nil]
          omega
        have rightPadded : (language.below whole.length).padded right
            (beforeRight ++ rightText ++ afterRight) (')' :: rest) := by
          refine padded_of_rendering rightRendering beforeRightBlanks afterRightBlanks
            (by decide) (by decide) ?_
          simp only [whole, List.length_append, List.length_cons, List.length_nil]
          omega
        refine .inr ⟨?_, ?_⟩
        · rw [Language.refuses_mapped_iff, Language.refuses_mapped_iff]
          exact Language.refuses_numeral (not_startsWith_cons rfl _)
        · rw [operationLanguage_iff]
          refine ⟨operator, left, right, _, _, rfl, ?_, leftPadded, rightPadded⟩
          simp only [List.append_assoc, List.cons_append]
  · intro member
    rcases member with ⟨_, ⟨value, ⟨numeral, clear⟩, rfl⟩, rfl⟩ | ⟨_, member⟩
    · exact ⟨.literal numeral, fun _ => clear⟩
    · obtain ⟨rendering, notDigit⟩ := rendering_of_operationLanguage
        (fun operand operandText after member => member.2.1) member
      exact ⟨rendering, fun ⟨_, numeral⟩ => absurd numeral.startsWith notDigit⟩

theorem reads_language : parser.Reads language :=
  reads_fix guarded_body reads_body language_iff_step

/-- The parser of expressions returns on every text, and what it reads are the renderings: a tree
is read off the beginning of a text exactly if that beginning renders it and, where it renders it
as a number, no further digit follows. -/
theorem parse_success_iff_rendering (cursor : Cursor) :
    (parser.parse cursor).Returns ∧
      ∀ tree rest,
        (∃ next, parser.parse cursor = .success tree next ∧ next.unread = rest) ↔
          ∃ text, cursor.unread = text ++ rest ∧ Rendering tree text ∧
            ((∃ value, Numeral value text) → ¬ StartsWith Char.isDigit rest) :=
  ⟨(reads_language cursor).returns, reads_language.success_leaving_iff cursor⟩

end Tree

end TextGrammar.Arithmetic
