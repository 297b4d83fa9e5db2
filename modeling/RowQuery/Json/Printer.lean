import RowQuery.Json.Number
/-!
# Writing JSON

The compact form has no blanks. The spread form has a line for each item
and member, indented by two blanks a level, and keeps empty containers
closed. In strings, only quotes, backslashes and control characters are
escaped.
-/

namespace RowQuery

namespace Json

/-- The form of a character within a string. -/
def charText (c : Char) : List Char :=
  match c with
  | '"' => ['\\', '"']
  | '\\' => ['\\', '\\']
  | '\x08' => ['\\', 'b']
  | '\x0c' => ['\\', 'f']
  | '\n' => ['\\', 'n']
  | '\r' => ['\\', 'r']
  | '\t' => ['\\', 't']
  | c =>
    if c.toNat < 0x20 then
      '\\' :: 'u' :: '0' :: '0' :: Nat.digitChar (c.toNat / 16) :: [Nat.digitChar (c.toNat % 16)]
    else [c]

/-- The form of a string, quotes included. -/
def stringText (s : String) : List Char :=
  '"' :: (s.toList.flatMap charText ++ ['"'])

/-- The form of a value that is no container. -/
def scalarText : Json → List Char
  | bool true => "true".toList
  | bool false => "false".toList
  | number n => n.text.toList
  | string s => stringText s
  | _ => "null".toList

/-- Texts with commas between them. -/
def commaSeparated : List (List Char) → List Char
  | [] => []
  | [t] => t
  | t :: rest => t ++ ',' :: commaSeparated rest

mutual

/-- The compact form of a value. -/
def compactText : Json → List Char
  | array items => '[' :: (commaSeparated (compactItems items) ++ [']'])
  | object members => '\x7b' :: (commaSeparated (compactMembers members) ++ ['\x7d'])
  | v => scalarText v

/-- The compact forms of values. -/
def compactItems : List Json → List (List Char)
  | [] => []
  | v :: rest => compactText v :: compactItems rest

/-- The compact forms of members. -/
def compactMembers : List (String × Json) → List (List Char)
  | [] => []
  | (key, v) :: rest => (stringText key ++ ':' :: compactText v) :: compactMembers rest

end

/-- A line break and the indentation of a level. -/
def newLine (level : Nat) : List Char :=
  '\n' :: List.replicate (2 * level) ' '

/-- The lines of a container between its brackets, at a level. -/
def spreadLines (level : Nat) (opening closing : Char) (lines : List (List Char)) : List Char :=
  if lines.isEmpty then [opening, closing]
  else
    opening :: (commaSeparated (lines.map fun l => newLine (level + 1) ++ l) ++
      newLine level ++ [closing])

mutual

/-- The spread form of a value at a level. -/
def spreadText (level : Nat) : Json → List Char
  | array items => spreadLines level '[' ']' (spreadItems level items)
  | object members => spreadLines level '\x7b' '\x7d' (spreadMembers level members)
  | v => scalarText v

/-- The spread forms of the values of a container at a level. -/
def spreadItems (level : Nat) : List Json → List (List Char)
  | [] => []
  | v :: rest => spreadText (level + 1) v :: spreadItems level rest

/-- The spread forms of the members of a container at a level. -/
def spreadMembers (level : Nat) : List (String × Json) → List (List Char)
  | [] => []
  | (key, v) :: rest =>
    (stringText key ++ ':' :: ' ' :: spreadText (level + 1) v) :: spreadMembers level rest

end

/-- The compact form of a value. -/
def compact (v : Json) : String := String.ofList v.compactText

/-- The spread form of a value. -/
def spread (v : Json) : String := String.ofList (v.spreadText 0)

end Json

end RowQuery
