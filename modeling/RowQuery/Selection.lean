import RowQuery.Predicate
import RowQuery.Query.Reader
import RowQuery.Text.Escaped
/-!
# Selections

A query made ready to select rows. A blank query selects every row; what
stands in it is not read at all.
-/

namespace RowQuery

/-- Why there is no selection for a text. -/
inductive QueryError
  /-- The text is no query. -/
  | unreadable (e : Query.ReadError)
  /-- The query does not fit the header. -/
  | unbound (e : BindError)
deriving DecidableEq

/-- A query made ready to select rows. -/
structure Selection where
  /-- The text of the query. -/
  query : String
  /-- What is asked of a row, or nothing. -/
  predicate : Option Predicate

namespace Selection

/-- The selection of every row. -/
def everything : Selection := ⟨"", none⟩

/-- The selection by a tree; the text is for display. -/
def ofTree [Pattern.Engine] (query : String) (t : Query.Tree) (h : Header) :
    Except BindError Selection :=
  (t.predicate h).map fun p => ⟨query, some p⟩

/-- The selection by a query. -/
def ofText [Pattern.Engine] (query : String) (h : Header) : Except QueryError Selection :=
  if Unicode.isBlank query then .ok everything
  else match Query.read query with
    | .error e => .error (.unreadable e)
    | .ok t => (ofTree query t h).mapError .unbound

/-- Whether nothing is asked of rows. -/
def isEverything (s : Selection) : Bool :=
  s.predicate.isNone

/-- Whether a row at an index, counted from zero, is selected. -/
def selects (s : Selection) (r : Row) (ordinal : Nat) : Bool :=
  match s.predicate with
  | some p => p r ordinal
  | none => true

/-- The rows that are selected, each with its index among the given rows. -/
def selected (s : Selection) (rows : List Row) : List (Row × Nat) :=
  rows.zipIdx.filter fun (r, i) => s.selects r i

/-- The rows that are selected, in their order. -/
def apply (s : Selection) (rows : List Row) : List Row :=
  (s.selected rows).map (·.1)

/-- A selection as programmers see it. -/
def describe (s : Selection) : String :=
  "TableFilter \x7b query: " ++ Text.escaped s.query ++ ", accept_all: " ++
    (if s.isEverything then "true" else "false") ++ " \x7d"

end Selection

/-- The sheet with the selected rows only. -/
def Sheet.select (t : Sheet) (s : Selection) : Sheet :=
  { t with rows := s.apply t.rows }

end RowQuery
