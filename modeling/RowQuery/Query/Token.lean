import RowQuery.Query.Operator
import RowQuery.Text.Decimal
/-!
# Tokens

The words a query is made of, and how a message names them.
-/

namespace RowQuery

namespace Query

/-- A word of a query. -/
inductive Token
  /-- A bare column name. -/
  | name (s : String)
  /-- A column name in double quotes, its escapes resolved. -/
  | quotedName (s : String)
  /-- A column position, or the row position when it is zero. -/
  | index (n : Nat)
  /-- A text in single quotes, its escapes resolved. -/
  | text (s : String)
  /-- A comparison operator. -/
  | operator (op : Operator)
  /-- The keyword of conjunction. -/
  | and
  /-- The keyword of disjunction. -/
  | or
  /-- The keyword of negation. -/
  | not
  /-- An opening parenthesis. -/
  | opening
  /-- A closing parenthesis. -/
  | closing
  /-- The end of the query. -/
  | finish
deriving DecidableEq

namespace Token

/-- The token as messages name it. -/
def describe : Token → String
  | name s => "identifier '" ++ s ++ "'"
  | quotedName s => "quoted identifier \"" ++ s ++ "\""
  | index n => "'$" ++ Text.decimal n ++ "'"
  | text s => "string '" ++ s ++ "'"
  | operator op => "'" ++ op.symbol ++ "'"
  | and => "'AND'"
  | or => "'OR'"
  | not => "'NOT'"
  | opening => "'('"
  | closing => "')'"
  | finish => "end of input"

/-- The words that are no column names, with their tokens. -/
def keywords : List (String × Token) :=
  [("AND", and), ("OR", or), ("NOT", not), ("LIKE", operator .like), ("ILIKE", operator .ilike),
   ("REGEX", operator .regex)]

/-- The token of a word: a keyword in any ASCII case, or else a name. -/
def ofWord (word : List Char) : Token :=
  match keywords.find? fun k => k.1.toList = word.map Char.toUpper with
  | some (_, t) => t
  | none => name (String.ofList word)

end Token

end Query

end RowQuery
