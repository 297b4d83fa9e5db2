import RowQuery.Json.Format
import RowQuery.Sheet
import RowQuery.Text.Decimal
/-!
# Sheets as JSON

A sheet travels as an object with the members `columns`, an array of names,
and `rows`, an array of arrays of cells. Names may be null, and the columns
may be left out. Cells that are truth values or numbers become their texts.
-/

namespace RowQuery

open Json (Format)

variable [Format]

/-- Why a JSON value is no sheet: its first defect, columns before rows.
Indices count from zero. -/
inductive SheetDefect
  /-- The value is no object. -/
  | notObject
  /-- The columns are no array. -/
  | columnsNotArray (found : Json)
  /-- The name of a column is neither a string nor null. -/
  | nameNotString (index : Nat) (found : Json)
  /-- There are no rows. -/
  | rowsMissing
  /-- The rows are no array. -/
  | rowsNotArray (found : Json)
  /-- A row is no array. -/
  | rowNotArray (index : Nat) (found : Json)
  /-- A cell of a row is a container. -/
  | nestedCell (index : Nat) (found : Json)

/-- The defect in words, in which columns and rows are counted from one. -/
def SheetDefect.describe : SheetDefect → String
  | notObject => "expected an object with \"columns\" and \"rows\""
  | columnsNotArray found => "\"columns\" must be an array, got " ++ Format.compact found
  | nameNotString index found =>
    "column " ++ Text.decimal (index + 1) ++ " name must be a string or null, got " ++
      Format.compact found
  | rowsMissing => "missing \"rows\""
  | rowsNotArray found => "\"rows\" must be an array, got " ++ Format.compact found
  | rowNotArray index found =>
    "row " ++ Text.decimal (index + 1) ++ " must be an array, got " ++ Format.compact found
  | nestedCell index found =>
    "row " ++ Text.decimal (index + 1) ++ " has a nested value: " ++ Format.compact found

namespace Sheet

/-- Reads names, of which the first has the given index. -/
def namesOfJson (index : Nat) : List Json → Except SheetDefect (List Cell)
  | [] => .ok []
  | .string s :: rest => (namesOfJson (index + 1) rest).map (some s :: ·)
  | .null :: rest => (namesOfJson (index + 1) rest).map (none :: ·)
  | found :: _ => .error (.nameNotString index found)

/-- The cell that a value becomes; containers become none. -/
def cellOfJson? : Json → Option Cell
  | .null => some none
  | .string s => some (some s)
  | .bool b => some (some (if b then "true" else "false"))
  | .number n => some (some (Format.number n))
  | .array _ => none
  | .object _ => none

/-- Reads the cells of the row that has the given index. -/
def cellsOfJson (index : Nat) : List Json → Except SheetDefect Row
  | [] => .ok []
  | v :: rest =>
    match cellOfJson? v with
    | some c => (cellsOfJson index rest).map (c :: ·)
    | none => .error (.nestedCell index v)

/-- Reads rows, of which the first has the given index. -/
def rowsOfJson (index : Nat) : List Json → Except SheetDefect (List Row)
  | [] => .ok []
  | .array cells :: rest =>
    match cellsOfJson index cells with
    | .error e => .error e
    | .ok row => (rowsOfJson (index + 1) rest).map (row :: ·)
  | found :: _ => .error (.rowNotArray index found)

/-- Reads the columns of a sheet. -/
def columnsOfJson : Option Json → Except SheetDefect (List Cell)
  | none => .ok []
  | some .null => .ok []
  | some (.array names) => namesOfJson 0 names
  | some found => .error (.columnsNotArray found)

/-- Reads a sheet. -/
def ofJson : Json → Except SheetDefect Sheet
  | .object members =>
    match columnsOfJson (Json.member? "columns" members) with
    | .error e => .error e
    | .ok names =>
      match Json.member? "rows" members with
      | some (.array rows) => (rowsOfJson 0 rows).map (⟨names, ·⟩)
      | some found => .error (.rowsNotArray found)
      | none => .error .rowsMissing
  | _ => .error .notObject

/-- The value of a cell. -/
def cellToJson : Cell → Json
  | none => .null
  | some s => .string s

/-- The value of a sheet. -/
def toJson (t : Sheet) : Json :=
  .object [("columns", .array (t.names.map cellToJson)),
    ("rows", .array (t.rows.map fun r => .array (r.map cellToJson)))]

end Sheet

end RowQuery
