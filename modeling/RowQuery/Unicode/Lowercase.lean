import RowQuery.Unicode.CaseTables
/-!
# Lower-casing

Every character has its lower-case form whatever stands around it, capital
sigma apart: it becomes the final form `ς` at the end of a word and `σ`
elsewhere. A sigma ends a word when a cased character stands before it and
none after it, characters that casing ignores not counted. The one
character whose form is two characters long is `İ`.
-/

namespace RowQuery

namespace Unicode

/-- Whether a character is a cased letter. -/
def isCased (c : Char) : Bool :=
  c.isAlpha || casedBeyondAscii.has c

/-- Whether casing passes over a character. -/
def isCaseIgnorable (c : Char) : Bool :=
  caseIgnorable.has c

/-- The lower-case form of a character that stands alone. -/
def lowerChar (c : Char) : List Char :=
  if c.toNat < 128 then [c.toLower]
  else if c = 'İ' then ['i', '\u0307']
  else match caseRuns.findSome? (·.lower? c.toNat) with
    | some n => [Char.ofNat n]
    | none => [c]

/-- Whether the first character that casing does not pass over is cased. -/
def facesCased (cs : List Char) : Bool :=
  match cs.dropWhile isCaseIgnorable with
  | [] => false
  | c :: _ => isCased c

/-- The lower-case form of a text that follows `before`, which is given
nearest character first. -/
def lowerAfter (before : List Char) : List Char → List Char
  | [] => []
  | c :: rest =>
    (if c = 'Σ' then [if facesCased before && !facesCased rest then 'ς' else 'σ']
      else lowerChar c) ++ lowerAfter (c :: before) rest

/-- The lower-case form of a text. -/
def lowercase (s : String) : String :=
  String.ofList (lowerAfter [] s.toList)

end Unicode

end RowQuery
