import RowQuery.Cell
/-!
# Rows and sheets

A row answers for every index: past its last cell it reads as absent, so
the rows of a sheet may differ in length.
-/

namespace RowQuery

/-- A row of cells. -/
abbrev Row := List Cell

/-- The cell of a row at an index counted from zero. -/
def Row.cell (r : Row) (i : Nat) : Cell :=
  (r[i]?).getD none

/-- A sheet: column names, which may be absent or repeated, and rows. -/
structure Sheet where
  /-- The names of the columns. -/
  names : List Cell
  /-- The rows. -/
  rows : List Row
deriving DecidableEq

end RowQuery
