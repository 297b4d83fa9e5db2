import RowQuery.Selection
import RowQuery.SheetJson
/-!
# Errors of the command

Why the command gives no result, and in which words it says so.
-/

namespace RowQuery

namespace Command

/-- Why the command gives no result. -/
inductive Error
  /-- The query is at fault. -/
  | query (e : QueryError)
  /-- The input is no JSON text, for a reason in the words of the format. -/
  | json (reason : String)
  /-- The input is no sheet. -/
  | sheet (e : SheetDefect)
  /-- The input is no text. -/
  | undecodable
  /-- There is no input. -/
  | noInput
  /-- The manual has no page for a name. -/
  | unknownTopic (name : String)

/-- How the reasons for refusing patterns and JSON texts are put. -/
structure Wording where
  /-- The words for a reason of the engine. -/
  pattern : String → String
  /-- The words for a reason of the format. -/
  json : String → String

/-- The words that the command uses, which are those of the reasons. -/
def Wording.plain : Wording := ⟨id, id⟩

namespace Error

/-- What an error comes from, in words: the error of the query, or that of
the JSON text. -/
def source? (w : Wording) : Error → Option String
  | query (.unreadable e) => some e.message
  | query (.unbound e) => some (e.describeWith w.pattern)
  | json reason => some (w.json reason)
  | undecodable => some "stream did not contain valid UTF-8"
  | _ => none

/-- The error in words. -/
def describe [Json.Format] (w : Wording) : Error → String
  | query (.unreadable e) => e.message
  | query (.unbound e) => "Filter error: " ++ e.describeWith w.pattern
  | json reason => "Invalid JSON: " ++ w.json reason
  | sheet e => "Invalid table: " ++ e.describe
  | undecodable => "IO error: stream did not contain valid UTF-8"
  | noInput => "No input provided. Use --input or pipe JSON to stdin."
  | unknownTopic name =>
    "Unknown category: '" ++ name ++ "'\nRun 'tfq docs' to see available categories."

end Error

end Command

end RowQuery
