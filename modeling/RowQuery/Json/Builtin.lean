import RowQuery.Json.Format
import RowQuery.Json.Printer
import RowQuery.Json.Reader
/-!
# The JSON format that is built in

Its reader takes nothing that is no JSON text, and its words for a defect are
those of `Defect.describe`.
-/

namespace RowQuery

namespace Json

/-- The strict reader, with the compact and the spread form. -/
instance builtin : Format where
  ofText s := (ofText s).mapError Defect.describe
  compact := compact
  spread := spread
  number := JsonNumber.text

end Json

end RowQuery
