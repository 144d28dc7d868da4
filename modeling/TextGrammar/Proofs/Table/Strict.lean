import TextGrammar.Proofs.DecimalLiterals
import TextGrammar.Proofs.Table.Text

/-!
Contract: the strict reader of tables reads the strict texts of tables and nothing else.

Owns:
- the language of the strict reader;
- `render`, the comma-separated text of a table, and `Printable`, the tables that have one;
- that the strict reader gets back what was rendered exactly if the table is printable.
-/

namespace TextGrammar

namespace Table

theorem reads_strictHeader :
    (Parser.separatedList Parser.letters (Parser.char ',')).Reads
      (.joined Word (fun rest => ¬ StartsWith Char.isAlpha rest) ',') := by
  have words : Parser.letters.Reads (.upTo Word fun rest => ¬ StartsWith Char.isAlpha rest) :=
    Parser.reads_letters
  exact words.separatedList (fun _ _ word => word.nonempty)
    (not_startsWith_cons (show Char.isAlpha ',' = false from rfl))

theorem reads_strictRow :
    (Parser.separatedList Parser.natural (Parser.char ',')).Reads
      (.joined Numeral (fun rest => ¬ StartsWith Char.isDigit rest) ',') := by
  have numerals :
      Parser.natural.Reads (.upTo Numeral fun rest => ¬ StartsWith Char.isDigit rest) :=
    Parser.reads_natural
  exact numerals.separatedList (fun _ _ numeral => numeral.nonempty)
    (not_startsWith_cons (show Char.isDigit ',' = false from rfl))

theorem text_ne_nil_of_row (row : List UInt64) (text : List Char)
    (joined : Joined Numeral ',' row text) : text ≠ [] :=
  joined.text_ne_nil fun _ _ numeral => numeral.nonempty

/-- A line feed ends a row. -/
theorem row_stops_before_line (tail : List Char) :
    ¬ StartsWith Char.isDigit ('\n' :: tail) ∧ ¬ StartsWith (· == ',') ('\n' :: tail) :=
  ⟨not_startsWith_cons rfl tail, not_startsWith_cons rfl tail⟩

/-- The strict reader reads exactly the strict texts that nothing can continue. -/
theorem reads_strict :
    strict.Reads (.upTo StrictText fun rest => ¬ StartsWith continuesTable rest) := by
  have rowsReads := reads_strictRow.separatedList text_ne_nil_of_row row_stops_before_line
  refine (reads_parserWith reads_strictHeader rowsReads).congr fun table text rest => ?_
  constructor
  · intro member
    obtain ⟨header, rows, textEq, ⟨headerJoined, _⟩, rowsJoined, stopped⟩ := member
    exact ⟨⟨header, rows, textEq, headerJoined, rowsJoined⟩,
      (not_startsWith_continuesTable_iff rest).mpr stopped⟩
  · intro member
    obtain ⟨⟨header, rows, textEq, headerJoined, rowsJoined⟩, stopped⟩ := member
    refine ⟨header, rows, textEq, ⟨headerJoined, ?_⟩, rowsJoined, ?_⟩
    · exact ⟨not_startsWith_cons rfl _, not_startsWith_cons rfl _⟩
    · exact (not_startsWith_continuesTable_iff rest).mp stopped

/-! ### What is rendered is read back -/

/-- The fields of a line between commas, the lines between line feeds. -/
def render (table : Table) : String :=
  ",".intercalate table.header ++ "\n" ++
    "\n".intercalate (table.rows.map fun row => ",".intercalate (row.map toString))

/-- There are names and rows, every name is of ASCII letters, and no name and no row is empty. -/
structure Printable (table : Table) : Prop where
  header_ne_nil : table.header ≠ []
  names : ∀ name ∈ table.header,
    name ≠ "" ∧ ∀ character ∈ name.toList, character.isAlpha = true
  rows_ne_nil : table.rows ≠ []
  rows : ∀ row ∈ table.rows, row ≠ []

theorem toList_render (table : Table) :
    table.render.toList =
      [','].intercalate (table.header.map String.toList) ++ '\n' ::
        ['\n'].intercalate (table.rows.map fun row =>
          [','].intercalate (row.map fun value => (toString value).toList)) := by
  have rowEq : ∀ row : List UInt64, (",".intercalate (row.map toString)).toList =
      [','].intercalate (row.map fun value => (toString value).toList) := by
    intro row
    rw [String.toList_intercalate, List.map_map]
    rfl
  have rowsEq : ("\n".intercalate
        (table.rows.map fun row => ",".intercalate (row.map toString))).toList =
      ['\n'].intercalate (table.rows.map fun row =>
        [','].intercalate (row.map fun value => (toString value).toList)) := by
    rw [String.toList_intercalate, List.map_map]
    exact congrArg (List.intercalate ['\n']) (List.map_congr_left fun row _ => rowEq row)
  rw [render, String.toList_append, String.toList_append, String.toList_intercalate, rowsEq,
    List.append_assoc]
  rfl

private theorem numeral_toString (value : UInt64) :
    Numeral value (toString value).toList := by
  have textEq : (toString value).toList = Nat.toDigits 10 value.toNat := Nat.toList_repr
  rw [textEq]
  exact numeral_replicate_zero_append_toDigits value 0

private theorem word_iff (name : String) :
    Word name name.toList ↔ name ≠ "" ∧ ∀ character ∈ name.toList, character.isAlpha = true := by
  have filledIff : name.toList ≠ [] ↔ name ≠ "" := not_congr String.toList_eq_nil_iff
  rw [← filledIff]
  constructor
  · intro word
    exact ⟨word.nonempty, word.letters⟩
  · intro printable
    exact ⟨printable.1, printable.2, String.ofList_toList.symm⟩

theorem Printable.strictText (table : Table) (printable : table.Printable) :
    StrictText table table.render.toList := by
  refine ⟨_, _, table.toList_render, ?_, ?_⟩
  · refine joined_intercalate String.toList printable.header_ne_nil fun name member => ?_
    exact (word_iff name).mpr (printable.names name member)
  · refine joined_intercalate _ printable.rows_ne_nil fun row member => ?_
    refine joined_intercalate _ (printable.rows row member) fun value _ => ?_
    exact numeral_toString value

/-- Joined names, and joined rows that are not empty, are those of a printable table. -/
theorem printable_of_joined {table : Table} {row : List UInt64 → List Char → Prop}
    {header rows : List Char} (headerJoined : Joined Word ',' table.header header)
    (rowsJoined : Joined row '\n' table.rows rows)
    (filled : ∀ fields text, row fields text → fields ≠ []) : table.Printable := by
  constructor
  case header_ne_nil => exact headerJoined.ne_nil
  case rows_ne_nil => exact rowsJoined.ne_nil
  case names =>
    intro name member
    obtain ⟨part, word⟩ := headerJoined.exists_text_of_mem member
    have partEq : name.toList = part := by rw [word.name_eq, String.toList_ofList]
    rw [← partEq] at word
    exact (word_iff name).mp word
  case rows =>
    intro fields member
    obtain ⟨part, fieldsJoined⟩ := rowsJoined.exists_text_of_mem member
    exact filled fields part fieldsJoined

theorem StrictText.printable {table : Table} {text : List Char}
    (strictText : StrictText table text) :
    table.Printable := by
  obtain ⟨header, rows, _, headerJoined, rowsJoined⟩ := strictText
  exact printable_of_joined headerJoined rowsJoined fun _ _ fieldsJoined => fieldsJoined.ne_nil

/-- The strict reader succeeds exactly on the strict texts that nothing can continue. So what is
rendered of a table is read back, with nothing left over, exactly if the table is printable. -/
theorem strict_success_iff_and_reads_render :
    (∀ (cursor : Cursor) (table : Table) (rest : List Char),
      (∃ next, strict.parse cursor = .success table next ∧ next.unread = rest) ↔
        ∃ text, cursor.unread = text ++ rest ∧ StrictText table text ∧
          ¬ StartsWith continuesTable rest) ∧
    ∀ table : Table,
      (∃ next, strict.parse (Cursor.ofText table.render) = .success table next ∧
        next.unread = []) ↔ table.Printable := by
  have successIff := reads_strict.success_leaving_iff
  refine ⟨successIff, fun table => ?_⟩
  rw [successIff (Cursor.ofText table.render) table [], Cursor.unread_ofText]
  constructor
  · intro found
    obtain ⟨text, _, strictText, _⟩ := found
    exact strictText.printable
  · intro printable
    exact ⟨_, (List.append_nil _).symm, printable.strictText, not_startsWith_nil _⟩

end Table

end TextGrammar
