import RowQuery.Command.Error
import RowQuery.Command.Manual
/-!
# What the command does

A query is checked by reading it, or by running it on a sheet that is given
as a JSON text; the input is looked at before the query. A page of the
manual is found by any of its names.
-/

namespace RowQuery

namespace Command

variable [Pattern.Engine] [Json.Format]

/-- What comes of a check. -/
inductive Checked
  /-- The query can be read. -/
  | readable
  /-- The rows that the query selects, with the columns of the input. -/
  | selected (t : Sheet)

/-- Reads a query; a blank one is read as well. -/
def readOnly (query : String) : Except Error Checked :=
  if Unicode.isBlank query then .ok .readable
  else match Query.read query with
    | .error e => .error (.query (.unreadable e))
    | .ok _ => .ok .readable

/-- The sheet of an input text. -/
def sheetOfText (input : String) : Except Error Sheet :=
  match Json.Format.ofText input with
  | .error reason => .error (.json reason)
  | .ok v => (Sheet.ofJson v).mapError .sheet

/-- Runs a query on a sheet. -/
def runOn (query : String) (t : Sheet) : Except Error Checked :=
  match Selection.ofText query t.header with
  | .error e => .error (.query e)
  | .ok s => .ok (.selected (t.select s))

/-- Checks a query. -/
def check (query : String) (input : Option String) (syntaxOnly : Bool) : Except Error Checked :=
  if syntaxOnly then readOnly query
  else match input with
    | none => .error .noInput
    | some input =>
      match sheetOfText input with
      | .error e => .error e
      | .ok t => runOn query t

/-- The page of the manual that has a name. -/
def page (name : String) : Except Error String :=
  match Topic.ofName? name with
  | some topic => .ok topic.page
  | none => .error (.unknownTopic name)

end Command

end RowQuery
