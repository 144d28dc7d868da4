import TextGrammar.Proofs.Table.Agreement

/-!
Contract: the columns of tables that were read.

Owns:
- that only printable tables are read, by the strict reader and by the lenient one;
- `FirstPlace`, the first place of a name in a header, and the look-up of a column by it: there is a
  column where every row reaches that place, and it has one value for each row;
- that the columns of a rectangular table with names of its own for each are its rows transposed.

A column is collected from all rows or not at all, so a short row takes it away and cannot make it
shorter. The first place of a header is reached by every row that is not empty, and a list that was
read is never empty, whichever of the two readers has read it.
-/

namespace TextGrammar.Table

/-! ### Tables that were read -/

theorem LenientText.printable {table : Table} {text : List Char}
    (lenientText : LenientText table text) : table.Printable := by
  obtain ⟨_, _, _, headerLoose, rowsLoose⟩ := lenientText
  obtain ⟨_, headerJoined⟩ := headerLoose.exists_joined
  obtain ⟨_, rowsJoined⟩ := rowsLoose.exists_joined
  refine printable_of_joined headerJoined rowsJoined fun fields text fieldsLoose => ?_
  obtain ⟨_, fieldsJoined⟩ := fieldsLoose.exists_joined
  exact fieldsJoined.ne_nil

theorem printable_of_read {cursor next : Cursor} {table : Table}
    (read : lenient.parse cursor = .success table next ∨
      strict.parse cursor = .success table next) : table.Printable := by
  have readLenient : lenient.parse cursor = .success table next :=
    read.elim id lenient_success_of_strict
  obtain ⟨_, _, member, _⟩ := reads_lenient.of_success readLenient
  exact (lenientText_of_lenientLanguage member).printable

/-! ### Looking up a column -/

/-- The first place at which a header has the name. -/
def FirstPlace (header : List String) (name : String) (place : Nat) : Prop :=
  header[place]? = some name ∧ ∀ earlier < place, header[earlier]? ≠ some name

theorem idxOf?_eq_some_iff_firstPlace {header : List String} {name : String} {place : Nat} :
    header.idxOf? name = some place ↔ FirstPlace header name place := by
  rw [List.idxOf?_eq_some_iff]
  constructor
  · rintro ⟨within, here, fresh⟩
    refine ⟨List.getElem?_eq_some_iff.mpr ⟨within, here⟩, fun earlier before same => ?_⟩
    obtain ⟨_, there⟩ := List.getElem?_eq_some_iff.mp same
    exact fresh earlier before there
  · rintro ⟨here, fresh⟩
    obtain ⟨within, here⟩ := List.getElem?_eq_some_iff.mp here
    refine ⟨within, here, fun earlier before there => fresh earlier before ?_⟩
    exact List.getElem?_eq_some_iff.mpr ⟨Nat.lt_trans before within, there⟩

/-- A name that is listed once has its only place as its first. -/
theorem firstPlace_of_nodup {header : List String} (distinct : header.Nodup) {name : String}
    {place : Nat} (here : header[place]? = some name) : FirstPlace header name place := by
  refine ⟨here, fun earlier before there => ?_⟩
  obtain ⟨within, _⟩ := List.getElem?_eq_some_iff.mp there
  have same := (List.getElem?_inj within distinct).mp (there.trans here.symm)
  exact Nat.ne_of_lt before same

/-- All or nothing: the values are collected if every item has one. -/
theorem mapM_eq_some_iff {α β : Type} {f : α → Option β} {items : List α} {values : List β} :
    items.mapM f = some values ↔ items.map f = values.map some := by
  induction items generalizing values with
  | nil => cases values <;> simp
  | cons item items inductionHypothesis =>
      cases values with
      | nil => simp [List.mapM_cons, Option.bind_eq_some_iff]
      | cons value values =>
          simp [List.mapM_cons, Option.bind_eq_some_iff, inductionHypothesis]

section Lookup

variable {table : Table} {name : String} {place : Nat}

theorem column_eq_some_iff {values : List UInt64} :
    table.column name = some values ↔
      ∃ place, FirstPlace table.header name place ∧
        table.rows.map (fun row => row[place]?) = values.map some := by
  simp only [column, Option.bind_eq_some_iff, idxOf?_eq_some_iff_firstPlace, mapM_eq_some_iff]

/-- The column of a name is what the rows have at its first place, if they all reach it. -/
theorem column_eq_of_reached (first : FirstPlace table.header name place)
    (reached : ∀ row ∈ table.rows, place < row.length) :
    table.column name = some (table.rows.map (·.getD place 0)) := by
  refine column_eq_some_iff.mpr ⟨place, first, ?_⟩
  rw [List.map_map]
  refine List.map_congr_left fun row member => ?_
  simp [reached row member]

theorem exists_column_iff :
    (∃ values, table.column name = some values) ↔
      ∃ place, FirstPlace table.header name place ∧ ∀ row ∈ table.rows, place < row.length := by
  constructor
  · rintro ⟨values, found⟩
    obtain ⟨place, first, entries⟩ := column_eq_some_iff.mp found
    refine ⟨place, first, fun row member => ?_⟩
    have listed : row[place]? ∈ values.map some := entries ▸ List.mem_map_of_mem member
    obtain ⟨value, _, entryEq⟩ := List.mem_map.mp listed
    exact (List.getElem?_eq_some_iff.mp entryEq.symm).1
  · rintro ⟨place, first, reached⟩
    exact ⟨_, column_eq_of_reached first reached⟩

/-- A column has one value for each row, the one at the first place of its name. -/
theorem entries_of_column {values : List UInt64} (found : table.column name = some values) :
    ∃ place, FirstPlace table.header name place ∧ values.length = table.rows.length ∧
      ∀ (down : Nat) row, table.rows[down]? = some row →
        ∃ value, row[place]? = some value ∧ values[down]? = some value := by
  obtain ⟨place, first, entries⟩ := column_eq_some_iff.mp found
  have lengths := congrArg List.length entries
  rw [List.length_map, List.length_map] at lengths
  refine ⟨place, first, lengths.symm, fun down row rowEq => ?_⟩
  have entry := congrArg (·[down]?) entries
  simp only [List.getElem?_map, rowEq, Option.map_some] at entry
  obtain ⟨value, valueEq, entryEq⟩ := Option.map_eq_some_iff.mp entry.symm
  exact ⟨value, entryEq.symm, valueEq⟩

/-- The first name of a table that was read has a column. -/
theorem Printable.exists_first_column (printable : table.Printable) :
    ∃ first others values, table.header = first :: others ∧
      table.column first = some values := by
  obtain ⟨first, others, headerEq⟩ := List.exists_cons_of_ne_nil printable.header_ne_nil
  have firstPlace : FirstPlace table.header first 0 := by
    rw [headerEq]
    exact ⟨rfl, fun earlier before => absurd before (Nat.not_lt_zero earlier)⟩
  refine ⟨first, others, _, headerEq, column_eq_of_reached firstPlace fun row member => ?_⟩
  exact List.length_pos_iff.mpr (printable.rows row member)

end Lookup

/-! ### All columns of a rectangular table -/

/-- What one list of lists has at two places in turn, the other has at the same two places in the
other order. -/
def Transposed {α : Type} (columns rows : List (List α)) : Prop :=
  ∀ across down : Nat,
    (columns[across]?.bind fun column => column[down]?) = rows[down]?.bind fun row => row[across]?

section Rectangular

variable {table : Table}

theorem columns_of_rectangular (distinct : table.header.Nodup)
    (rectangular : ∀ row ∈ table.rows, row.length = table.header.length) :
    table.header.mapM table.column =
      some ((List.range table.header.length).map fun place =>
        table.rows.map (·.getD place 0)) := by
  rw [mapM_eq_some_iff]
  refine List.ext_getElem (by simp) fun place within _ => ?_
  rw [List.length_map] at within
  have first := firstPlace_of_nodup distinct (List.getElem?_eq_getElem within)
  have found := column_eq_of_reached first fun row member => by
    rw [rectangular row member]
    exact within
  simpa using found

theorem transposed_of_rectangular
    (rectangular : ∀ row ∈ table.rows, row.length = table.header.length) :
    Transposed
      ((List.range table.header.length).map fun place => table.rows.map (·.getD place 0))
      table.rows := by
  intro across down
  rw [List.getElem?_map]
  by_cases within : across < table.header.length
  · rw [List.getElem?_range within]
    cases rowEq : table.rows[down]? with
    | none => simp [rowEq]
    | some row =>
        have reached := within
        rw [← rectangular row (List.mem_of_getElem? rowEq)] at reached
        simp [rowEq, reached]
  · cases rowEq : table.rows[down]? with
    | none => simp [within]
    | some row =>
        have notReached := within
        rw [← rectangular row (List.mem_of_getElem? rowEq)] at notReached
        simp [within, notReached]

end Rectangular

/-- A table that was read has names, which are of letters, and rows, and no name and no row is
empty. It has a column for a name exactly if the header has the name and every row reaches its first
place there, and the column has what the rows have at that place, one value for each. So there is
always the column of the first name. If no name is listed twice and all rows are as long as the
header, the columns of the names are the rows transposed. -/
theorem columns_of_table_read {cursor next : Cursor} {table : Table}
    (read : lenient.parse cursor = .success table next ∨
      strict.parse cursor = .success table next) :
    (table.header ≠ [] ∧ table.rows ≠ [] ∧
      (∀ name ∈ table.header,
        name ≠ "" ∧ ∀ character ∈ name.toList, character.isAlpha = true) ∧
      ∀ row ∈ table.rows, row ≠ []) ∧
    (∀ name, (∃ values, table.column name = some values) ↔
      ∃ place, FirstPlace table.header name place ∧ ∀ row ∈ table.rows, place < row.length) ∧
    (∀ name values, table.column name = some values →
      ∃ place, FirstPlace table.header name place ∧ values.length = table.rows.length ∧
        ∀ (down : Nat) row, table.rows[down]? = some row →
          ∃ value, row[place]? = some value ∧ values[down]? = some value) ∧
    (∃ first others values, table.header = first :: others ∧
      table.column first = some values) ∧
    (table.header.Nodup → (∀ row ∈ table.rows, row.length = table.header.length) →
      ∃ columns, table.header.mapM table.column = some columns ∧
        columns.length = table.header.length ∧
        (∀ column ∈ columns, column.length = table.rows.length) ∧
        Transposed columns table.rows) := by
  have printable := printable_of_read read
  refine ⟨⟨printable.header_ne_nil, printable.rows_ne_nil, printable.names, printable.rows⟩,
    fun name => exists_column_iff, fun name values found => entries_of_column found,
    printable.exists_first_column, fun distinct rectangular => ?_⟩
  refine ⟨_, columns_of_rectangular distinct rectangular, by simp, ?_,
    transposed_of_rectangular rectangular⟩
  intro column member
  obtain ⟨place, _, rfl⟩ := List.mem_map.mp member
  exact List.length_map _

/-- A rectangular table with a separator left over, and a ragged one that lists a name twice. -/
theorem columns_of_rectangular_and_ragged_table :
    (lenient.parse (Cursor.ofText "x,y\n1,2\n3,4\n5,6\n") =
        .success ⟨["x", "y"], [[1, 2], [3, 4], [5, 6]]⟩ (Cursor.endOf "x,y\n1,2\n3,4\n5,6\n") ∧
      ["x", "y"].Nodup ∧
      (∀ row ∈ ([[1, 2], [3, 4], [5, 6]] : List (List UInt64)), row.length = 2) ∧
      ∃ columns, ["x", "y"].mapM (⟨["x", "y"], [[1, 2], [3, 4], [5, 6]]⟩ : Table).column =
          some columns ∧
        Transposed columns [[1, 2], [3, 4], [5, 6]]) ∧
    (strict.parse (Cursor.ofText "x,y,x\n1\n2,3,4") =
        .success ⟨["x", "y", "x"], [[1], [2, 3, 4]]⟩ (Cursor.endOf "x,y,x\n1\n2,3,4") ∧
      (⟨["x", "y", "x"], [[1], [2, 3, 4]]⟩ : Table).column "x" = some [1, 2] ∧
      ¬ ∃ values, (⟨["x", "y", "x"], [[1], [2, 3, 4]]⟩ : Table).column "y" = some values) := by
  have readRectangular : lenient.parse (Cursor.ofText "x,y\n1,2\n3,4\n5,6\n") =
      .success ⟨["x", "y"], [[1, 2], [3, 4], [5, 6]]⟩
        (Cursor.endOf "x,y\n1,2\n3,4\n5,6\n") := by decide
  have readRagged : strict.parse (Cursor.ofText "x,y,x\n1\n2,3,4") =
      .success ⟨["x", "y", "x"], [[1], [2, 3, 4]]⟩ (Cursor.endOf "x,y,x\n1\n2,3,4") := by
    decide
  obtain ⟨_, _, _, _, transposes⟩ := columns_of_table_read (.inl readRectangular)
  obtain ⟨_, columnIff, _, _, _⟩ := columns_of_table_read (.inr readRagged)
  obtain ⟨columns, found, _, _, transposed⟩ := transposes (by decide) (by decide)
  refine ⟨⟨readRectangular, by decide, by decide, columns, found, transposed⟩, readRagged, rfl, ?_⟩
  rw [columnIff]
  rintro ⟨place, first, reached⟩
  have shortRow : place < 1 := reached [1] (by decide)
  have isFirst : place = 0 := by omega
  subst isFirst
  exact absurd first.1 (by decide)

end TextGrammar.Table
