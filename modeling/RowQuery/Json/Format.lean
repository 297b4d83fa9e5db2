import RowQuery.Json.Value
/-!
# Reading and writing JSON texts

What reads and writes JSON texts is a part of its own, as is the engine for
patterns. A value has a text on one line and a text on several lines. A reader
says in its own words why a text has no value.
-/

namespace RowQuery

namespace Json

/-- A reader and writer of JSON texts. -/
class Format where
  /-- The value of a text, or why the text has none. -/
  ofText : String → Except String Json
  /-- The text of a value, without blanks. -/
  compact : Json → String
  /-- The text of a value, with a line for each part of a container. -/
  spread : Json → String
  /-- The text of a number. -/
  number : JsonNumber → String

end Json

end RowQuery
