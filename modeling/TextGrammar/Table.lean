import TextGrammar.Lexical
import TextGrammar.Parser.Separated

/-!
Contract: tables in comma-separated text, a line of names and then lines of numbers.

Owns:
- `Table` with the look-up of a column by its name;
- the lenient reader, which lets a line end in a comma and the text in a line feed, and the strict
  reader, which wants another field or line after each of them.

Rows are kept as they are read; nothing requires them to be as long as the header.
-/

namespace TextGrammar

/-- A header of names, and rows of numbers below it. -/
structure Table where
  header : List String
  rows : List (List UInt64)
deriving DecidableEq, Repr

namespace Table

/-- The fields of the rows at the place where the header first has `name`. There is no such column
if the header lacks the name or some row is too short. -/
def column (table : Table) (name : String) : Option (List UInt64) :=
  (table.header.idxOf? name).bind fun index => table.rows.mapM fun row => row[index]?

/-- Read a table, with `listOf` for the lists of names, fields and rows. -/
def parserWith (listOf : {α : Type} → Parser α → Parser Char → Parser (List α)) :
    Parser Table :=
  ((Parser.first (listOf Parser.letters (Parser.char ',')) (Parser.char '\n')).both
      (listOf (listOf Parser.natural (Parser.char ',')) (Parser.char '\n'))).map
    fun read => ⟨read.1, read.2⟩

/-- Read a table; separators may be left over at the ends of lines and of the text. -/
def lenient : Parser Table :=
  parserWith Parser.separatedBy

/-- Read a table; separators stand between fields and between lines only. -/
def strict : Parser Table :=
  parserWith Parser.separatedList

end Table

end TextGrammar
