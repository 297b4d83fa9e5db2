import RowQuery.Command.Arguments
import RowQuery.Command.Check
import RowQuery.Json.Builtin
import RowQuery.Pattern.Builtin
/-!
# Running the command

From the words of a command line and the bytes of the standard input to
what is printed and the exit code: zero for a result, one for an error, and
two for a misused command line.
-/

namespace RowQuery

namespace Command

variable [Pattern.Engine] [Json.Format]

/-- What the command leaves behind. -/
structure Outcome where
  /-- The exit code. -/
  code : Nat
  /-- The text on the standard output. -/
  output : String
  /-- The text on the standard error. -/
  errors : String

/-- The version of the command. -/
def versionText : String := "tfq 0.1.0\n"

/-- How the command is called. -/
def usageText : String :=
  "Usage: tfq [-v]... check QUERY [-i INPUT] [-p] [--syntax-only]\n" ++
    "       tfq [-v]... docs\n" ++
    "       tfq [-v]... doc CATEGORY\n"

/-- Whether the standard input is the input of a request. -/
def Request.readsInput : Request → Bool
  | check _ none _ syntaxOnly => !syntaxOnly
  | _ => false

/-- The text of what comes of a check. -/
def Checked.text (pretty : Bool) : Checked → String
  | readable => "Syntax is valid\n"
  | selected t =>
    (if pretty then Json.Format.spread t.toJson else Json.Format.compact t.toJson) ++ "\n"

/-- The text that a request asks for. The bytes are those of the standard
input, unless that is a terminal. -/
def Request.answer (bytes : Option ByteArray) : Request → Except Error String
  | check query (some input) pretty syntaxOnly =>
    (Command.check query (some input) syntaxOnly).map (Checked.text pretty)
  | check query none pretty true => (Command.check query none true).map (Checked.text pretty)
  | check query none pretty false =>
    match bytes with
    | none => (Command.check query none false).map (Checked.text pretty)
    | some bytes =>
      match String.fromUTF8? bytes with
      | none => .error .undecodable
      | some input => (Command.check query (some input) false).map (Checked.text pretty)
  | overview => .ok Command.overview
  | page name => Command.page name
  | version => .ok versionText
  | usage => .ok usageText

/-- Runs a request. -/
def Request.run (w : Wording) (bytes : Option ByteArray) (r : Request) : Outcome :=
  match r.answer bytes with
  | .ok text => ⟨0, text, ""⟩
  | .error e => ⟨1, "", e.describe w ++ "\n"⟩

/-- Runs a command line. -/
def run (w : Wording) (words : List String) (bytes : Option ByteArray) : Outcome :=
  match requestOf words with
  | none => ⟨2, "", usageText⟩
  | some r => r.run w bytes

end Command

end RowQuery
