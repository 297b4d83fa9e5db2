import RowQuery.Query.Operator
/-!
# Query trees

What a query says. A query is a list of alternatives, each a list of terms
that hold together; a term is a comparison, the negation of a term, or a
query in parentheses.
-/

namespace RowQuery

namespace Query

/-- A reference to a column, or to the position of the row. -/
inductive Reference
  /-- A bare column name. -/
  | name (s : String)
  /-- A quoted column name. -/
  | quotedName (s : String)
  /-- A column position, counted from one. -/
  | index (n : Nat)
  /-- The position of the row among the rows filtered, counted from one. -/
  | position
deriving DecidableEq

/-- The right side of a comparison. -/
inductive Operand
  /-- A text. -/
  | text (s : String)
  /-- What the row has at a reference. -/
  | reference (r : Reference)
deriving DecidableEq

/-- A comparison of what a row has at a reference with an operand. -/
structure Comparison where
  /-- The left side. -/
  subject : Reference
  /-- How the sides are compared. -/
  operator : Operator
  /-- The right side. -/
  operand : Operand
deriving DecidableEq

/-- A term of a query. -/
inductive Term
  /-- A comparison. -/
  | comparison (c : Comparison)
  /-- The negation of a term. -/
  | negation (t : Term)
  /-- A query in parentheses. -/
  | group (alternatives : List (List Term))

/-- Terms that hold together. -/
abbrev Conjunction := List Term

/-- Alternatives of which one holds. -/
abbrev Tree := List Conjunction

end Query

end RowQuery
