import TextGrammar.Table
import TextGrammar.Proofs.Separated

/-!
Contract: the texts of tables, and how a reader of tables is put together.

Owns:
- `StrictText` and `LenientText`, the texts of a table without and with separators left over;
- `continuesTable`, the characters that may not follow them;
- the language of `parserWith`, from those of its two lists, and what it answers after a header.
-/

namespace TextGrammar.Table

/-- Names between commas on the first line, and lines of numbers between commas below it. -/
def StrictText (table : Table) (text : List Char) : Prop :=
  ∃ header rows, text = header ++ '\n' :: rows ∧
    Joined Word ',' table.header header ∧
    Joined (Joined Numeral ',') '\n' table.rows rows

/-- The same, where every line may end in a comma and the last line in a line feed. -/
def LenientText (table : Table) (text : List Char) : Prop :=
  ∃ header rows, text = header ++ '\n' :: rows ∧
    LooselyJoined Word ',' table.header header ∧
    LooselyJoined (LooselyJoined Numeral ',') '\n' table.rows rows

/-- A table could go on with this character. -/
def continuesTable (character : Char) : Bool :=
  character.isDigit || character == ',' || character == '\n'

theorem not_startsWith_continuesTable_iff (rest : List Char) :
    ¬ StartsWith continuesTable rest ↔
      (¬ StartsWith Char.isDigit rest ∧ ¬ StartsWith (· == ',') rest) ∧
        ¬ StartsWith (· == '\n') rest := by
  cases rest with
  | nil => simp
  | cons head tail =>
      simp only [startsWith_cons, continuesTable, Bool.or_eq_true, not_or]

/-- A header, a line feed, and rows. -/
def languageWith (header : Language (List String)) (rows : Language (List (List UInt64))) :
    Language Table :=
  fun table text rest => ∃ headerText rowsText, text = headerText ++ '\n' :: rowsText ∧
    header table.header headerText ('\n' :: (rowsText ++ rest)) ∧
    rows table.rows rowsText rest

theorem reads_parserWith
    {listOf : {α : Type} → Parser α → Parser Char → Parser (List α)}
    {header : Language (List String)} {rows : Language (List (List UInt64))}
    (headerReads : (listOf Parser.letters (Parser.char ',')).Reads header)
    (rowsReads : (listOf (listOf Parser.natural (Parser.char ',')) (Parser.char '\n')).Reads
      rows) :
    (parserWith listOf).Reads (languageWith header rows) := by
  have lineReads := headerReads.first (Parser.reads_char '\n')
  refine ((lineReads.both rowsReads).map fun read => (⟨read.1, read.2⟩ : Table)).congr
    fun table text rest => ?_
  constructor
  · intro member
    obtain ⟨read, ⟨line, rowsText, rfl, lineMember, rowsMember⟩, rfl⟩ := member
    obtain ⟨_, headerText, _, rfl, headerMember, _, rfl⟩ := lineMember
    refine ⟨headerText, rowsText, ?_, headerMember, rowsMember⟩
    rw [List.append_assoc]
    rfl
  · intro member
    obtain ⟨headerText, rowsText, rfl, headerMember, rowsMember⟩ := member
    refine ⟨(table.header, table.rows), ⟨headerText ++ ['\n'], rowsText, ?_, ?_, rowsMember⟩, rfl⟩
    · rw [List.append_assoc]
      rfl
    · exact ⟨'\n', headerText, ['\n'], rfl, headerMember, rfl, rfl⟩

/-- After a header and its line feed, the rows decide what is answered. -/
theorem exists_parse_parserWith_eq
    (listOf : {α : Type} → Parser α → Parser Char → Parser (List α))
    {header : Language (List String)}
    (headerReads : (listOf Parser.letters (Parser.char ',')).Reads header) {cursor : Cursor}
    {names : List String} {text rest : List Char}
    (unreadEq : cursor.unread = text ++ '\n' :: rest) (member : header names text ('\n' :: rest)) :
    ∃ place : Cursor, place.unread = rest ∧ (parserWith listOf).parse cursor =
      ((listOf (listOf Parser.natural (Parser.char ',')) (Parser.char '\n')).parse place).map
        (⟨names, ·⟩) := by
  have lineReads := headerReads.first (Parser.reads_char '\n')
  rw [List.append_cons] at unreadEq
  have read := (lineReads cursor).success unreadEq ⟨'\n', text, ['\n'], rfl, member, rfl, rfl⟩
  refine ⟨_, Cursor.unread_advance_length unreadEq, ?_⟩
  rw [parserWith, Parser.parse_map, Parser.parse_both, read, Outcome.success_andThen]
  cases (listOf (listOf Parser.natural (Parser.char ',')) (Parser.char '\n')).parse
    (cursor.advance (text ++ ['\n']).length) <;> rfl

end TextGrammar.Table
