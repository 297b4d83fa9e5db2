/-!
# Comparison operators

The nine operators of a query and the symbols they are written by.
-/

namespace RowQuery

namespace Query

/-- A comparison operator. -/
inductive Operator
  /-- Equal. -/
  | equal
  /-- Different. -/
  | notEqual
  /-- Before in the order of cells. -/
  | less
  /-- After in the order of cells. -/
  | greater
  /-- Before or equal. -/
  | lessOrEqual
  /-- After or equal. -/
  | greaterOrEqual
  /-- The right side occurs in the left. -/
  | like
  /-- The right side occurs in the left when case is ignored. -/
  | ilike
  /-- The left side as a whole matches the regular expression on the right. -/
  | regex
deriving DecidableEq

namespace Operator

/-- The symbol that a query writes for the operator. -/
def symbol : Operator → String
  | equal => "="
  | notEqual => "<>"
  | less => "<"
  | greater => ">"
  | lessOrEqual => "<="
  | greaterOrEqual => ">="
  | like => "LIKE"
  | ilike => "ILIKE"
  | regex => "REGEX"

/-- All operators. -/
def all : List Operator :=
  [equal, notEqual, less, greater, lessOrEqual, greaterOrEqual, like, ilike, regex]

/-- The operator that a text names, in any ASCII case. -/
def ofText? (s : String) : Option Operator :=
  all.find? fun op => op.symbol.toList = s.toList.map Char.toUpper

/-- Every operator is read back from its symbol. -/
theorem ofText?_symbol (op : Operator) : ofText? op.symbol = some op := by
  cases op <;> decide

end Operator

end Query

end RowQuery
