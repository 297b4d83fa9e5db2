import RowQuery.Cell
/-!
# JSON values

The values of the interchange format. The members of an object are in the
order of their keys, one for each key.
-/

namespace RowQuery

/-- A number of the interchange format. -/
inductive JsonNumber
  /-- An integer. -/
  | integer (n : Int)
  /-- A double, by its bits. -/
  | double (bits : UInt64)
deriving DecidableEq

/-- A value of the interchange format. -/
inductive Json
  /-- The absent value. -/
  | null
  /-- A truth value. -/
  | bool (b : Bool)
  /-- A number. -/
  | number (n : JsonNumber)
  /-- A text. -/
  | string (s : String)
  /-- Values in a row. -/
  | array (items : List Json)
  /-- Values by key. -/
  | object (members : List (String × Json))

namespace Json

/-- Sets a member of an object, and keeps the keys in order. -/
def insert (key : String) (value : Json) : List (String × Json) → List (String × Json)
  | [] => [(key, value)]
  | (k, v) :: rest =>
    match Text.order key.toList k.toList with
    | .lt => (key, value) :: (k, v) :: rest
    | .eq => (key, value) :: rest
    | .gt => (k, v) :: insert key value rest

/-- The member of an object that has a key. -/
def member? (key : String) (members : List (String × Json)) : Option Json :=
  members.lookup key

end Json

end RowQuery
