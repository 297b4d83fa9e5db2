import RowQuery.Unicode.Binary
import RowQuery.Unicode.Category
/-!
# Escaped display

A text between double quotes in which every character can be seen: quotes
and backslashes are escaped, and characters without a glyph of their own
are written by their code points.
-/

namespace RowQuery

namespace Text

/-- The characters without a glyph of their own, the blank among them:
controls, formats, unassigned ones, separators, and those that extend the
character before them. -/
def unseen : CharSet :=
  ((Unicode.categories ["cc", "cf", "cn", "co", "zl", "zp", "zs"]).union
    ((Unicode.binary? "graphemeextend").getD .empty)).normal

/-- The form of a character in an escaped display. -/
def escapedChar (c : Char) : List Char :=
  match c with
  | '"' => ['\\', '"']
  | '\\' => ['\\', '\\']
  | '\x00' => ['\\', '0']
  | '\t' => ['\\', 't']
  | '\n' => ['\\', 'n']
  | '\r' => ['\\', 'r']
  | c =>
    if c = ' ' || !unseen.has c then [c]
    else "\\u\x7b".toList ++ Nat.toDigits 16 c.toNat ++ "\x7d".toList

/-- The escaped display of a text. -/
def escaped (s : String) : String :=
  String.ofList ('"' :: (s.toList.flatMap escapedChar ++ ['"']))

end Text

end RowQuery
