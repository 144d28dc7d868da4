import TextGrammar.Lexical
import TextGrammar.Proofs.Reading

/-!
Contract: the exact languages of the lexemes.

Owns:
- `Word` and `Numeral`, the texts of names and of numbers, `Overflowing`, those of numbers out of
  range, and `Blanks`;
- the languages of `letters`, `natural`, `blanks` and of a padded parser;
- how `natural` fails at a number out of range.

A lexeme is a run of one class of characters, and the loop that reads it takes the longest one. So
each language holds the texts of the class, and asks that what follows does not go on with it.
-/

namespace TextGrammar

/-- The text of a name: one ASCII letter or more. -/
structure Word (name : String) (text : List Char) : Prop where
  nonempty : text ≠ []
  letters : ∀ character ∈ text, character.isAlpha = true
  name_eq : name = String.ofList text

/-- The text of a word of 64 bits: one ASCII digit or more, whose decimal value is the word. A text
of a larger value has none. -/
structure Numeral (value : UInt64) (text : List Char) : Prop where
  nonempty : text ≠ []
  digits : ∀ character ∈ text, character.isDigit = true
  value_eq : decimalValue text = value.toNat

/-- A string of ASCII digits whose decimal value does not fit in a word of 64 bits. -/
structure Overflowing (text : List Char) : Prop where
  digits : ∀ character ∈ text, character.isDigit = true
  too_large : UInt64.size ≤ decimalValue text

/-- A space or a tab. -/
def isBlank (character : Char) : Bool :=
  character == ' ' || character == '\t'

/-- A run of spaces and tabs, possibly empty. -/
def Blanks (text : List Char) : Prop :=
  ∀ character ∈ text, isBlank character = true

instance (text : List Char) : Decidable (Blanks text) :=
  List.decidableBAll (fun character => isBlank character = true) text

theorem blanks_nil : Blanks [] :=
  List.forall_mem_nil _

theorem Numeral.startsWith {value : UInt64} {text : List Char} (numeral : Numeral value text) :
    StartsWith Char.isDigit text := by
  cases text with
  | nil => exact absurd rfl numeral.nonempty
  | cons head tail => exact numeral.digits head List.mem_cons_self

theorem Overflowing.nonempty {text : List Char} (overflowing : Overflowing text) : text ≠ [] := by
  rintro rfl
  exact absurd overflowing.too_large (by decide)

theorem Overflowing.startsWith {text : List Char} (overflowing : Overflowing text) :
    StartsWith Char.isDigit text := by
  cases text with
  | nil => exact absurd rfl overflowing.nonempty
  | cons head tail => exact overflowing.digits head List.mem_cons_self

theorem Word.startsWith {name : String} {text : List Char} (word : Word name text) :
    StartsWith Char.isAlpha text := by
  cases text with
  | nil => exact absurd rfl word.nonempty
  | cons head tail => exact word.letters head List.mem_cons_self

theorem isDigit_eq_false_of_isBlank {character : Char} (blank : isBlank character = true) :
    character.isDigit = false := by
  rw [isBlank, Bool.or_eq_true, beq_iff_eq, beq_iff_eq] at blank
  rcases blank with rfl | rfl
  · decide
  · decide

/-- A digit stands in front, so no blank does. -/
theorem not_startsWith_blank_of_digit {text : List Char} (digit : StartsWith Char.isDigit text)
    (rest : List Char) : ¬ StartsWith isBlank (text ++ rest) := by
  cases text with
  | nil => exact absurd digit (not_startsWith_nil Char.isDigit)
  | cons head tail =>
      intro blank
      rw [List.cons_append, startsWith_cons] at blank
      rw [startsWith_cons, isDigit_eq_false_of_isBlank blank] at digit
      contradiction

theorem Numeral.not_startsWith_blank {value : UInt64} {text : List Char}
    (numeral : Numeral value text) (rest : List Char) : ¬ StartsWith isBlank (text ++ rest) :=
  not_startsWith_blank_of_digit numeral.startsWith rest

theorem Overflowing.not_startsWith_blank {text : List Char} (overflowing : Overflowing text)
    (rest : List Char) : ¬ StartsWith isBlank (text ++ rest) :=
  not_startsWith_blank_of_digit overflowing.startsWith rest

/-- Blanks do not go on with a number that has ended in front of them. -/
theorem Blanks.not_startsWith_digit {gap rest : List Char} (blanks : Blanks gap)
    (stopped : ¬ StartsWith Char.isDigit rest) : ¬ StartsWith Char.isDigit (gap ++ rest) :=
  not_startsWith_append
    (fun character member => isDigit_eq_false_of_isBlank (blanks character member)) stopped

namespace Language

variable {α : Type}

/-- The longest run of a class, as a list of its characters. -/
def run (accept : Char → Bool) : Language (List Char) :=
  fun value text rest =>
    value = text ∧ (∀ character ∈ text, accept character = true) ∧ ¬ StartsWith accept rest

/-- The longest run of a class that is not empty, as it is written. -/
def lexeme (accept : Char → Bool) : Language String :=
  fun value text rest => value = String.ofList text ∧ text ≠ [] ∧
    (∀ character ∈ text, accept character = true) ∧ ¬ StartsWith accept rest

/-- A name that no letter follows. -/
def word : Language String :=
  fun name text rest => Word name text ∧ ¬ StartsWith Char.isAlpha rest

/-- A number that no digit follows. -/
def numeral : Language UInt64 :=
  fun value text rest => Numeral value text ∧ ¬ StartsWith Char.isDigit rest

/-- Blanks that no blank follows. -/
def blanks : Language Unit :=
  fun _ text rest => Blanks text ∧ ¬ StartsWith isBlank rest

/-- A text of a language with blanks on both sides, as many as there are. -/
def padded (language : Language α) : Language α :=
  fun value text rest => ∃ before content after, text = before ++ content ++ after ∧
    Blanks before ∧ ¬ StartsWith isBlank (content ++ after ++ rest) ∧
    language value content (after ++ rest) ∧
    Blanks after ∧ ¬ StartsWith isBlank rest

theorem proper_oneOf (accept : Char → Bool) : (oneOf accept).Proper := by
  intro value text rest member
  rw [member.2]
  exact List.cons_ne_nil value []

theorem proper_word : word.Proper :=
  fun _ _ _ member => member.1.nonempty

theorem proper_numeral : numeral.Proper :=
  fun _ _ _ member => member.1.nonempty

theorem refuses_word {ahead : List Char} (stopped : ¬ StartsWith Char.isAlpha ahead) :
    word.Refuses ahead := by
  intro name text rest aheadEq member
  rw [aheadEq, startsWith_append_iff _ member.1.nonempty] at stopped
  exact stopped member.1.startsWith

theorem refuses_numeral {ahead : List Char} (stopped : ¬ StartsWith Char.isDigit ahead) :
    numeral.Refuses ahead := by
  intro value text rest aheadEq member
  rw [aheadEq, startsWith_append_iff _ member.1.nonempty] at stopped
  exact stopped member.1.startsWith

/-- Characters of a class one after the other are the longest run of it. -/
theorem repeated_oneOf_iff (accept : Char → Bool) (values text rest : List Char) :
    (oneOf accept).Repeated values text rest ↔ run accept values text rest := by
  constructor
  · intro member
    induction member with
    | stop refused =>
        rw [refuses_oneOf_iff] at refused
        exact ⟨rfl, fun _ member => by contradiction, refused⟩
    | step first others inductionHypothesis =>
        obtain ⟨accepted, rfl⟩ := first
        obtain ⟨rfl, others, stopped⟩ := inductionHypothesis
        refine ⟨rfl, fun character member => ?_, stopped⟩
        rcases List.mem_cons.mp member with rfl | member
        · exact accepted
        · exact others character member
  · intro member
    obtain ⟨rfl, accepted, stopped⟩ := member
    induction values with
    | nil => exact .stop ((refuses_oneOf_iff accept rest).mpr stopped)
    | cons head tail inductionHypothesis =>
        have tailMember := inductionHypothesis fun character member =>
          accepted character (List.mem_cons_of_mem head member)
        have headMember : oneOf accept head [head] (tail ++ rest) :=
          ⟨accepted head List.mem_cons_self, rfl⟩
        exact .step headMember tailMember

end Language

namespace Parser

variable {α : Type}

theorem Reads.lexeme {parser : Parser Char} {accept : Char → Bool}
    (reads : parser.Reads (.oneOf accept)) :
    (parser.many1.map String.ofList).Reads (.lexeme accept) := by
  refine ((reads.many1 (Language.proper_oneOf accept)).map String.ofList).congr
    fun value text rest => ?_
  constructor
  · intro member
    obtain ⟨characters, ⟨filled, repeated⟩, rfl⟩ := member
    rw [Language.repeated_oneOf_iff] at repeated
    obtain ⟨rfl, accepted, stopped⟩ := repeated
    exact ⟨rfl, filled, accepted, stopped⟩
  · intro member
    obtain ⟨rfl, filled, accepted, stopped⟩ := member
    refine ⟨text, ⟨filled, ?_⟩, rfl⟩
    rw [Language.repeated_oneOf_iff]
    exact ⟨rfl, accepted, stopped⟩

theorem reads_letter : letter.Reads (.oneOf Char.isAlpha) := by
  refine (reads_anyChar.filter Char.isAlpha "expected letter").congr fun value text rest => ?_
  exact ⟨fun member => ⟨member.2, member.1.2⟩, fun member => ⟨⟨rfl, member.2⟩, member.1⟩⟩

theorem reads_digit : digit.Reads (.oneOf Char.isDigit) := by
  refine (reads_anyChar.filter Char.isDigit "expected digit").congr fun value text rest => ?_
  exact ⟨fun member => ⟨member.2, member.1.2⟩, fun member => ⟨⟨rfl, member.2⟩, member.1⟩⟩

theorem reads_letters : letters.Reads .word := by
  refine reads_letter.lexeme.congr fun name text rest => ?_
  constructor
  · intro member
    obtain ⟨nameEq, filled, letters, stopped⟩ := member
    exact ⟨⟨filled, letters, nameEq⟩, stopped⟩
  · intro member
    obtain ⟨⟨filled, letters, nameEq⟩, stopped⟩ := member
    exact ⟨nameEq, filled, letters, stopped⟩

/-- Nothing is read to find the word of a literal, and there is one exactly if the value fits. -/
theorem reads_wordOfLiteral (literal : String) :
    (wordOfLiteral literal).Reads fun value text _ =>
      text = [] ∧ decimalValue literal.toList = value.toNat := by
  by_cases fits : decimalValue literal.toList < UInt64.size
  · have parserEq : wordOfLiteral literal =
        succeed (UInt64.ofNat (decimalValue literal.toList)) := if_pos fits
    rw [parserEq]
    refine (reads_succeed _).congr fun value text rest => ?_
    have valueIff : value = UInt64.ofNat (decimalValue literal.toList) ↔
        decimalValue literal.toList = value.toNat := by
      rw [← UInt64.toNat_inj, UInt64.toNat_ofNat_of_lt' fits, eq_comm]
    rw [Language.nothing, valueIff, and_comm]
  · have parserEq : wordOfLiteral literal =
        fail ("number out of range: " ++ literal) := if_neg fits
    rw [parserEq]
    refine (reads_fail _).congr fun value text rest => ?_
    refine ⟨False.elim, fun member => fits ?_⟩
    rw [member.2]
    exact value.toNat_lt_size

theorem reads_natural : natural.Reads .numeral := by
  refine (reads_digit.lexeme.bind reads_wordOfLiteral).congr fun value text rest => ?_
  constructor
  · intro member
    obtain ⟨literal, digitText, nothing, rfl, read, rfl, valueEq⟩ := member
    obtain ⟨rfl, filled, digits, stopped⟩ := read
    rw [String.toList_ofList] at valueEq
    rw [List.append_nil]
    exact ⟨⟨filled, digits, valueEq⟩, stopped⟩
  · intro member
    obtain ⟨⟨filled, digits, valueEq⟩, stopped⟩ := member
    refine ⟨String.ofList text, text, [], (List.append_nil text).symm,
      ⟨rfl, filled, digits, stopped⟩, rfl, ?_⟩
    rw [String.toList_ofList]
    exact valueEq

/-- All digits of the literal are read before it is refused, and the message shows them. -/
theorem parse_natural_of_overflowing {cursor : Cursor} {literal rest : List Char}
    (overflowing : Overflowing literal) (stopped : ¬ StartsWith Char.isDigit rest)
    (unreadEq : cursor.unread = literal ++ rest) :
    natural.parse cursor =
      .failure (.failed ("number out of range: " ++ String.ofList literal)) := by
  have read : digits.parse cursor =
      .success (String.ofList literal) (cursor.advance literal.length) :=
    (reads_digit.lexeme cursor).success unreadEq
      ⟨rfl, overflowing.nonempty, overflowing.digits, stopped⟩
  have refused : wordOfLiteral (String.ofList literal) =
      fail ("number out of range: " ++ String.ofList literal) := by
    rw [wordOfLiteral, String.toList_ofList]
    exact if_neg (Nat.not_lt.mpr overflowing.too_large)
  rw [natural, parse_bind, read, Outcome.success_andThen, refused, parse_fail]

theorem reads_blank : blank.Reads (.oneOf isBlank) := by
  have accepts : ([' ', '\t'].contains ·) = isBlank := by
    funext character
    rw [isBlank, List.contains_cons, List.contains_cons, List.contains_nil, Bool.or_false]
  rw [← accepts]
  exact reads_firstSuccess_char ' ' ['\t']

theorem reads_blanks : blanks.Reads .blanks := by
  refine ((reads_blank.many (Language.proper_oneOf isBlank)).map fun _ => ()).congr
    fun value text rest => ?_
  constructor
  · intro member
    obtain ⟨characters, repeated, _⟩ := member
    rw [Language.repeated_oneOf_iff] at repeated
    exact repeated.2
  · intro member
    exact ⟨text, (Language.repeated_oneOf_iff isBlank text text rest).mpr ⟨rfl, member⟩, rfl⟩

theorem Advances.padded {parser : Parser α} (advances : parser.Advances) :
    (padded parser).Advances :=
  reads_blanks.advances.second (advances.first reads_blanks.advances)

theorem Reads.padded {parser : Parser α} {language : Language α} (reads : parser.Reads language) :
    (padded parser).Reads language.padded := by
  refine (reads_blanks.between reads reads_blanks).congr fun value text rest => ?_
  constructor
  · intro member
    obtain ⟨_, before, inner, rfl, ⟨beforeBlanks, beforeStopped⟩, _, content, after, rfl,
      contentMember, afterBlanks, afterStopped⟩ := member
    exact ⟨before, content, after, (List.append_assoc before content after).symm, beforeBlanks,
      beforeStopped, contentMember, afterBlanks, afterStopped⟩
  · intro member
    obtain ⟨before, content, after, rfl, beforeBlanks, beforeStopped, contentMember, afterBlanks,
      afterStopped⟩ := member
    exact ⟨(), before, content ++ after, List.append_assoc before content after,
      ⟨beforeBlanks, beforeStopped⟩, (), content, after, rfl, contentMember, afterBlanks,
      afterStopped⟩

end Parser

end TextGrammar
