import RowQuery.Pattern.Engine
/-!
# Patterns for whole texts

An engine looks for a pattern anywhere in a text. To match a whole text, the
pattern is set between anchors and compiled again. It has to be a pattern by
itself as well, so that a parenthesis in it cannot close the group that the
anchors hold.
-/

namespace RowQuery

namespace Pattern

/-- A pattern between anchors. -/
def anchored (pattern : String) : String :=
  "\\A(?:" ++ pattern ++ ")\\z"

variable [Engine]

/-- The expression that finds a pattern where it matches a whole text. -/
def whole (pattern : String) : Except String Engine.Expression :=
  match Engine.compile pattern with
  | .error why => .error why
  | .ok _ => Engine.compile (anchored pattern)

/-- Whether a whole text matches a pattern. A text that is no pattern
matches nothing. -/
def matchesWhole (pattern text : String) : Bool :=
  match whole pattern with
  | .ok r => Engine.occurs r text
  | .error _ => false

end Pattern

end RowQuery
