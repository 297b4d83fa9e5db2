import RowQuery.Query.Tree
import RowQuery.Sheet
import RowQuery.Text.Decimal
/-!
# Headers

Which column a reference means. Names serve as references only when every
column has one and no two columns share one; otherwise a header keeps the
first defect of its names, and only positions can be used.
-/

namespace RowQuery

/-- Why the names of a header are of no use. -/
inductive HeaderDefect
  /-- There are no columns. -/
  | noColumns
  /-- The column at an index, counted from zero, has no name. -/
  | unnamed (index : Nat)
  /-- Two columns share a name. -/
  | repeated (name : String)
deriving DecidableEq

/-- The defect in words, in which columns are counted from one. -/
def HeaderDefect.describe : HeaderDefect → String
  | noColumns => "the table has no columns"
  | unnamed index => "column " ++ Text.decimal (index + 1) ++ " has no name"
  | repeated name => "duplicate column name '" ++ name ++ "'"

/-- Why a query cannot be run on the rows under a header. -/
inductive BindError
  /-- No column has the name. -/
  | unknownColumn (name : String)
  /-- A name is referred to although the names are of no use. -/
  | namesUnusable (name : String) (why : HeaderDefect)
  /-- A text is no pattern, for a reason in the words of the engine. -/
  | invalidPattern (pattern reason : String)
  /-- A text names no operator. -/
  | unsupportedOperator (text : String)
deriving DecidableEq

namespace BindError

/-- The error in words, with the reasons for refusing patterns put as given. -/
def describeWith (words : String → String) : BindError → String
  | unknownColumn name => "unknown column: " ++ name
  | namesUnusable name why =>
    "cannot reference column '" ++ name ++ "' by name: " ++ why.describe ++ "; use $N instead"
  | invalidPattern pattern reason =>
    "invalid regular expression '" ++ pattern ++ "': " ++ words reason
  | unsupportedOperator text => "unsupported operator: " ++ text

/-- The error in words. -/
def message (e : BindError) : String :=
  e.describeWith id

end BindError

/-- The operator that a text names. -/
def Query.Operator.ofText (s : String) : Except BindError Query.Operator :=
  match ofText? s with
  | some op => .ok op
  | none => .error (.unsupportedOperator s)

/-- What a reference means: a cell, or the position of the row. -/
inductive Source
  /-- The cell at an index, counted from zero. -/
  | cell (index : Nat)
  /-- The position of the row. -/
  | position
deriving DecidableEq

/-- What a source reads from the row at an index, counted from zero. The
position of a row is a text, and counted from one. -/
def Source.read (s : Source) (r : Row) (ordinal : Nat) : Cell :=
  match s with
  | cell index => r.cell index
  | position => some (Text.decimal (ordinal + 1))

/-- The columns that references are looked up in. -/
inductive Header
  /-- Columns with distinct names. -/
  | named (names : List String)
  /-- Columns whose names are of no use. -/
  | positional (why : HeaderDefect)

namespace Header

/-- Checks names from a column on: they must be present, and differ from
the names before. -/
def collect (before : List String) : List Cell → Except HeaderDefect (List String)
  | [] => .ok before
  | none :: _ => .error (.unnamed before.length)
  | some name :: rest =>
    if name ∈ before then .error (.repeated name) else collect (before ++ [name]) rest

/-- The header of columns with the given names. -/
def ofNames (names : List Cell) : Header :=
  match collect [] names with
  | .error why => positional why
  | .ok [] => positional .noColumns
  | .ok names => named names

/-- Why the names are of no use, if they are not. -/
def defect? : Header → Option HeaderDefect
  | named _ => none
  | positional why => some why

/-- The index of the column that has a name. -/
def indexOf (h : Header) (name : String) : Except BindError Nat :=
  match h with
  | positional why => .error (.namesUnusable name why)
  | named names =>
    match names.idxOf? name with
    | some i => .ok i
    | none => .error (.unknownColumn name)

/-- What a reference means. Positions need no names. -/
def resolve (h : Header) : Query.Reference → Except BindError Source
  | .position | .index 0 => .ok .position
  | .index (n + 1) => .ok (.cell n)
  | .name s | .quotedName s => (h.indexOf s).map .cell

end Header

/-- The header of a sheet. -/
def Sheet.header (s : Sheet) : Header := .ofNames s.names

end RowQuery
