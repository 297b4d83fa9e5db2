import RowQuery.Pattern.Engine
import RowQuery.Pattern.Matching
import RowQuery.Pattern.Reading
import RowQuery.Pattern.Size
/-!
# The engine that is built in

A pattern is a text that reads as an expression and stays within the bounds
on nesting and size; the bounds are those of this engine.
-/

namespace RowQuery

namespace Pattern

/-- How deep a pattern may be nested. -/
def depthBound : Nat := 250

/-- The expression of a pattern. -/
def parse (text : List Char) : Except Defect (Regex Atom) :=
  match Progress.start.run text with
  | .error e => .error e
  | .ok part =>
    if depthBound < part.depth then .error .tooDeep
    else if !part.regex.fits then .error .tooLarge
    else .ok part.regex

/-- The engine that reads patterns by `parse` and matches them on sets of
places. -/
instance builtin : Engine where
  Expression := Regex Atom
  compile text := (parse text.toList).mapError Defect.describe
  occurs r text := r.occursIn text.toList

end Pattern

end RowQuery
