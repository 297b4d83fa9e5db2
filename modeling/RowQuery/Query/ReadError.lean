import RowQuery.Query.Token
/-!
# Errors of reading

Why a text is no query, and where. The cause says what is wrong with the
character or the token at the position; the message is made from it.
-/

namespace RowQuery

namespace Query

/-- What a query may go on with. -/
inductive Expected
  /-- A reference to a column. -/
  | reference
  /-- A comparison operator. -/
  | operator
  /-- The right side of a comparison. -/
  | operand
  /-- A closing parenthesis, or a further term of the group. -/
  | closing
  /-- The end of the query, or a further term of it. -/
  | joint
deriving DecidableEq

/-- What was expected, as messages put it. -/
def Expected.describe : Expected → String
  | reference => "column reference"
  | operator => "comparison operator"
  | operand => "string literal or column reference"
  | closing => Token.closing.describe
  | joint => "AND, OR or end of input"

/-- Why a text is no query. -/
inductive ReadError.Cause
  /-- A text in single quotes has no closing quote. -/
  | unclosedText
  /-- A name in double quotes has no closing quote. -/
  | unclosedName
  /-- A dollar sign without a number behind it. -/
  | missingIndex
  /-- A column number of 2^64 or more, given by its digits. -/
  | indexTooLarge (digits : String)
  /-- An exclamation mark. -/
  | exclamation
  /-- A digit where a token would have to start. -/
  | bareDigit (c : Char)
  /-- Any other character that starts no token. -/
  | strayCharacter (c : Char)
  /-- A token that does not fit what was read before. -/
  | unexpected (wanted : Expected) (found : Token)
deriving DecidableEq

/-- An error of reading: its place, in characters from the start of the
query, and its cause. -/
structure ReadError where
  /-- The place of the offending character or token. -/
  position : Nat
  /-- What is wrong there. -/
  cause : ReadError.Cause
deriving DecidableEq

namespace ReadError

/-- The cause in words. -/
def Cause.describe : Cause → String
  | unclosedText => "Unterminated string: missing closing '"
  | unclosedName => "Unterminated quoted identifier: missing closing \""
  | missingIndex => "Expected column number after '$' (e.g. $1, or $0 for the row position)"
  | indexTooLarge digits => "Column index $" ++ digits ++ " is too large"
  | exclamation => "Unexpected '!' (did you mean '<>' or NOT?)"
  | bareDigit c =>
    "Unexpected '" ++ c.toString ++ "': values must be quoted, e.g. '" ++ c.toString ++ "'"
  | strayCharacter c => "Unexpected character '" ++ c.toString ++ "'"
  | unexpected wanted found => "Expected " ++ wanted.describe ++ ", got " ++ found.describe

/-- The whole message. -/
def message (e : ReadError) : String :=
  "Syntax error at position " ++ Text.decimal e.position ++ ": " ++ e.cause.describe

end ReadError

end Query

end RowQuery
