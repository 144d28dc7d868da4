import TextGrammar.Grammar.Derived
import TextGrammar.Nesting
import TextGrammar.Proofs.Recursion

/-!
Contract: a dot in balanced parentheses as a language, and the one failure outside of it.

Owns:
- `language`, the texts of all depths, as the solution of the equation that the body sets up;
- that the parser, which a grammar of one rule denotes, satisfies its definition, returns on every
  text and reads these texts only;
- its failures: there is one for each first character, and it is about the dot.

The parentheses are counted by the calls that wait for theirs. A mismatch inside of them fails the
pair, and then the dot is looked for where the pair began. So the failure of each depth takes the
place of the one below it, and what is reported is found at the first character.
-/

namespace TextGrammar.Nesting

open TextGrammar.Parser

/-! ### The language -/

theorem render_succ (depth : Nat) : render (depth + 1) = '(' :: (render depth ++ [')']) := by
  rw [render, render, List.replicate_succ, List.replicate_succ', List.append_assoc,
    List.cons_append, List.cons_append]

/-- The dot in parentheses, for the number of pairs around it. -/
def language : Language Nat :=
  fun depth text _ => text = render depth

/-- A text of `inside` in parentheses. -/
def pairLanguage (inside : Language Nat) : Language Nat :=
  (Language.character '(').preceded (inside.followed (Language.character ')'))

/-- A text of `inside` in parentheses, one deeper, or else the dot. -/
def step (inside : Language Nat) : Language Nat :=
  ((pairLanguage inside).mapped (· + 1)).preferring ((Language.character '.').mapped fun _ => 0)

theorem pairLanguage_iff (inside : Language Nat) (depth : Nat) (text rest : List Char) :
    pairLanguage inside depth text rest ↔
      ∃ inner, text = '(' :: (inner ++ [')']) ∧ inside depth inner (')' :: rest) := by
  constructor
  · intro member
    obtain ⟨_, _, _, rfl, ⟨_, rfl⟩, _, inner, _, rfl, innerMember, _, rfl⟩ := member
    exact ⟨inner, rfl, innerMember⟩
  · intro found
    obtain ⟨inner, rfl, innerMember⟩ := found
    exact ⟨'(', ['('], inner ++ [')'], rfl, ⟨rfl, rfl⟩, ')', inner, [')'], rfl, innerMember,
      rfl, rfl⟩

/-- In front of the dot there is no pair. -/
private theorem refuses_pairLanguage_dot (inside : Language Nat) (rest : List Char) :
    ((pairLanguage inside).mapped (· + 1)).Refuses ('.' :: rest) := by
  rw [Language.refuses_mapped_iff]
  intro depth text after aheadEq member
  obtain ⟨inner, rfl, _⟩ := (pairLanguage_iff inside depth text after).mp member
  cases aheadEq

/-- What stands in a pair is shorter than the pair, so the texts of all depths are what the body
makes of the shorter ones among them. -/
private theorem language_iff_step (depth : Nat) (text rest : List Char) :
    language depth text rest ↔
      step (language.below (text ++ rest).length) depth text rest := by
  constructor
  · intro textEq
    rw [language] at textEq
    subst textEq
    cases depth with
    | zero => exact .inr ⟨refuses_pairLanguage_dot _ rest, '.', ⟨rfl, rfl⟩, rfl⟩
    | succ depth =>
        rw [render_succ]
        refine .inl ⟨depth, (pairLanguage_iff _ depth _ rest).mpr ⟨render depth, rfl, ?_, rfl⟩, rfl⟩
        simp only [List.cons_append, List.append_assoc, List.nil_append, List.length_cons]
        exact Nat.lt_succ_self _
  · intro member
    rcases member with ⟨inner, pair, rfl⟩ | ⟨_, _, ⟨_, rfl⟩, rfl⟩
    · obtain ⟨_, rfl, _, rfl⟩ := (pairLanguage_iff _ inner text rest).mp pair
      exact (render_succ inner).symm
    · rfl

/-! ### The parser -/

theorem reads_body {inner : Parser Nat} {inside : Language Nat} (reads : inner.Reads inside) :
    (body inner).Reads (step inside) :=
  (((reads_char '(').between reads (reads_char ')')).map (· + 1)).orElse
    ((reads_char '.').map fun _ => 0)

/-- The content of a pair is read only after the parenthesis before it. -/
theorem guarded_body : Guarded body where
  advances := by
    intro inner advances
    have pairAdvances : (between (char '(') inner (char ')')).Advances :=
      (reads_char '(').advances.second (advances.first (reads_char ')').advances)
    exact (pairAdvances.map (· + 1)).orElse ((reads_char '.').advances.map fun _ => 0)
  agree := by
    intro bound left right leftAdvances _ agree
    have contentAgree : AgreeBelow bound (first left (char ')')) (first right (char ')')) :=
      agree.first (agreeBelow_refl bound (char ')')) leftAdvances
    have openingConsumes : (char '(').Consumes :=
      (reads_char '(').consumes (Language.proper_character '(')
    exact ((contentAgree.second_of_consumes openingConsumes).map (· + 1)).orElse
      (agreeBelow_refl (bound + 1) ((char '.').map fun _ => 0))

theorem parser_eq_body : parser = body parser :=
  guarded_body.fix_eq

/-- The grammar of the parser: one rule, which refers to itself where it is deferred. -/
def rulebook : Rulebook (fun _ : Fin 1 => Nat) where
  define index :=
    .orElse (.map (· + 1) (.between (.char '(') (.deferred fun _ => .rule index) (.char ')')))
      (.map (fun _ => 0) (.char '.'))

theorem parser_rulebook : rulebook.parser (.rule 0) = parser := by
  have bodyEq : rulebook.body = onlyRule body := by
    funext self index
    cases Subsingleton.elim index 0
    rfl
  exact congrArg (recursive · 0) bodyEq

theorem reads_language : parser.Reads language :=
  reads_fix guarded_body reads_body language_iff_step

/-! ### Failures -/

section Failures

variable {cursor : Cursor} {reason : Failure}

/-- The dot is looked for last, and where the pair was looked for. -/
theorem reason_of_parse_failure (failed : parser.parse cursor = .failure reason) :
    reason = .charMismatch '.' cursor.current := by
  rw [parser_eq_body, body, parse_orElse, Outcome.orElse_eq_failure_iff] at failed
  obtain ⟨_, noDot⟩ := failed
  rw [parse_map, Outcome.map_eq_failure_iff] at noDot
  by_cases dot : cursor.current = some '.'
  · rw [parse_char_of_current dot] at noDot
    contradiction
  · rw [parse_char_of_ne dot] at noDot
    cases noDot
    rfl

theorem parse_eq_failure_iff (cursor : Cursor) (reason : Failure) :
    parser.parse cursor = .failure reason ↔
      (∀ depth rest, cursor.unread ≠ render depth ++ rest) ∧
        reason = .charMismatch '.' cursor.current := by
  constructor
  · intro failed
    refine ⟨fun depth rest unreadEq => ?_, reason_of_parse_failure failed⟩
    exact (reads_language cursor).refuses_of_failure failed depth _ rest unreadEq rfl
  · intro outside
    obtain ⟨notRendered, rfl⟩ := outside
    have refused : language.Refuses cursor.unread := by
      intro depth text rest unreadEq textEq
      rw [textEq] at unreadEq
      exact notRendered depth rest unreadEq
    obtain ⟨reason, failed⟩ := (reads_language cursor).failure_of_refuses refused
    rw [failed, reason_of_parse_failure failed]

end Failures

/-- The parser of the rule that refers to itself is what its body makes of it, and it returns on
every text. It reads a depth exactly where as many parentheses, the dot and as many closing
parentheses begin the text. Everywhere else it fails, and whatever is missing inside of the
parentheses, the failure is that the first character is no dot. -/
theorem nesting_read_exactly_and_refused_at_first_character :
    rulebook.parser (.rule 0) = parser ∧ parser = body parser ∧ ∀ cursor : Cursor,
      (parser.parse cursor).Returns ∧
      (∀ depth rest,
        (∃ next, parser.parse cursor = .success depth next ∧ next.unread = rest) ↔
          cursor.unread = render depth ++ rest) ∧
      ∀ reason, parser.parse cursor = .failure reason ↔
        (∀ depth rest, cursor.unread ≠ render depth ++ rest) ∧
          reason = ⟨.matchMismatch,
            "expected '.' got '" ++ Failure.foundText cursor.current ++ "'", .matchChar⟩ := by
  refine ⟨parser_rulebook, parser_eq_body, fun cursor =>
    ⟨(reads_language cursor).returns, fun depth rest => ?_, parse_eq_failure_iff cursor⟩⟩
  rw [reads_language.success_leaving_iff]
  constructor
  · intro found
    obtain ⟨text, unreadEq, textEq⟩ := found
    rw [unreadEq, textEq]
  · intro unreadEq
    exact ⟨render depth, unreadEq, rfl⟩

/-- The closing parenthesis is what is missing here, and the dot is what is reported. -/
example : parser.parse (Cursor.ofText "((.)x") = .failure (.charMismatch '.' (some '(')) := rfl

end TextGrammar.Nesting
