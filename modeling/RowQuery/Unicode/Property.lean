import RowQuery.Unicode.Age
import RowQuery.Unicode.Binary
import RowQuery.Unicode.Category
import RowQuery.Unicode.Script
import RowQuery.Unicode.Segmentation
import RowQuery.Unicode.WhiteSpace
/-!
# Properties by name

The characters that a property query such as `Greek`, `gc=Nd` or
`Script: Han` asks for. Names are compared in loose form: without case,
spaces, hyphens and underscores, and without a leading `is`.
-/

namespace RowQuery

namespace Unicode

/-- Splits a text at the first place where the separator stands. -/
def cut? (separator : List Char) : List Char → Option (List Char × List Char)
  | [] => none
  | c :: rest =>
    if separator.isPrefixOf (c :: rest) then some ([], (c :: rest).drop separator.length)
    else (cut? separator rest).map fun (before, after) => (c :: before, after)

/-- The loose form of a name. The name `isc` is kept from losing its first
letters, since they are no addition to it. -/
def looseName (name : List Char) : String :=
  let hasIs := (name.take 2).map Char.toLower = ['i', 's']
  let letters := (if hasIs then name.drop 2 else name).filter fun c =>
    c.toNat < 128 && c ≠ ' ' && c ≠ '_' && c ≠ '-'
  let loose := String.ofList (letters.map Char.toLower)
  if hasIs ∧ loose = "c" then "isc" else loose

/-- The characters that have a general category, by loose name. -/
def generalCategory? : String → Option CharSet
  | "any" => some .all
  | "assigned" => some (categories ["cn"]).compl
  | "ascii" => some (.range 0 0x7F)
  | name => category? name

/-- Names that mean a category although a property carries them as well. -/
def categoryFirst : List String := ["cf", "sc", "lc"]

/-- The characters that a single name asks for: those that have a property,
a general category or a script. -/
def propertyNamed? (name : List Char) : Option CharSet :=
  let loose := looseName name
  let first := if loose ∈ categoryFirst then none else binary? loose
  first <|> generalCategory? loose <|> script? loose

/-- The characters for which a property has a value. -/
def propertyValued? (property value : List Char) : Option CharSet :=
  let value := looseName value
  match looseName property with
  | "gc" | "generalcategory" | "category" => generalCategory? value
  | "sc" | "script" => script? value
  | "scx" | "scriptextensions" => scriptUse? value
  | "age" => age? value
  | "gcb" | "graphemeclusterbreak" => CharSet.lookup graphemeBreakTable value
  | "wb" | "wordbreak" => CharSet.lookup wordBreakTable value
  | "sb" | "sentencebreak" => CharSet.lookup sentenceBreakTable value
  | _ => none

/-- The characters that a property query asks for. -/
def property? (query : List Char) : Option CharSet :=
  match cut? ['!', '='] query <|> cut? [':'] query <|> cut? ['='] query with
  | some (property, value) => propertyValued? property value
  | none => propertyNamed? query

/-- The decimal digits of all scripts. -/
def digits : CharSet := categories ["nd"]

/-- The characters of words: letters, marks, decimal digits, connecting
punctuation and joiners. -/
def wordCharacters : CharSet :=
  ((binary? "alphabetic").getD .empty).union <|
    (categories ["mc", "me", "mn", "nd", "pc"]).union ((binary? "joincontrol").getD .empty)

/-- The characters of words, in order. -/
def wordSet : CharSet := wordCharacters.normal

end Unicode

end RowQuery
