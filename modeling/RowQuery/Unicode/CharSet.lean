/-!
# Sets of characters

A set of characters is a list of inclusive ranges of code points. The
ranges may overlap and come in any order, so a union only joins two lists;
`normal` puts them in order, and complements are the gaps of that order.
-/

namespace RowQuery

/-- A set of characters, as inclusive ranges of code points. -/
structure CharSet where
  /-- The ranges, each by its first and its last code point. -/
  ranges : List (Nat × Nat)
deriving DecidableEq

namespace Unicode

/-- The number that upper-case hexadecimal digits spell. -/
def hexValue (s : String) : Nat :=
  s.toList.foldl (fun n c => 16 * n + (if c.toNat ≤ 57 then c.toNat - 48 else c.toNat - 55)) 0

/-- The words of a table entry, parted by blanks and line breaks. -/
def wordsOf (s : String) : List String :=
  (s.splitOn "\n").flatMap fun line => (line.splitOn " ").filter (· ≠ "")

/-- The largest code point. -/
def lastCode : Nat := 0x10FFFF

/-- The surrogate code points, which are no characters. -/
def surrogates : Nat × Nat := (0xD800, 0xDFFF)

end Unicode

namespace CharSet

/-- Whether a range holds the code point. -/
def hasCode (s : CharSet) (n : Nat) : Bool :=
  s.ranges.any fun r => r.1 ≤ n && n ≤ r.2

/-- Whether the set holds the character. -/
def has (s : CharSet) (c : Char) : Bool :=
  s.hasCode c.toNat

/-- The set without members. -/
def empty : CharSet := ⟨[]⟩

/-- The set of one code point. -/
def single (n : Nat) : CharSet := ⟨[(n, n)]⟩

/-- The code points from `lo` to `hi`. -/
def range (lo hi : Nat) : CharSet := ⟨[(lo, hi)]⟩

/-- The characters of either set. -/
def union (a b : CharSet) : CharSet := ⟨a.ranges ++ b.ranges⟩

@[simp] theorem hasCode_union (a b : CharSet) (n : Nat) :
    (a.union b).hasCode n = (a.hasCode n || b.hasCode n) := by
  simp [hasCode, union, List.any_append]

/-- Joins a range to ordered ranges that start no later, last range first. -/
def joinLast (r : Nat × Nat) : List (Nat × Nat) → List (Nat × Nat)
  | [] => [r]
  | last :: before =>
    if r.1 ≤ last.2 + 1 then (last.1, max last.2 r.2) :: before else r :: last :: before

/-- The same set with ascending ranges that neither meet nor touch. -/
def normal (s : CharSet) : CharSet :=
  let sorted := (s.ranges.filter fun r => r.1 ≤ r.2).mergeSort fun a b => a.1 ≤ b.1
  ⟨(sorted.foldl (fun joined r => joinLast r joined) []).reverse⟩

/-- The gaps between ascending ranges, from `start` to the last code point. -/
def gaps (start : Nat) : List (Nat × Nat) → List (Nat × Nat)
  | [] => if start ≤ Unicode.lastCode then [(start, Unicode.lastCode)] else []
  | (lo, hi) :: rest =>
    if start < lo then (start, lo - 1) :: gaps (hi + 1) rest else gaps (hi + 1) rest

/-- The characters outside the set. -/
def compl (s : CharSet) : CharSet :=
  ⟨gaps 0 (normal ⟨Unicode.surrogates :: s.ranges⟩).ranges⟩

/-- All characters. -/
def all : CharSet := compl empty

/-- The characters of both sets. -/
def inter (a b : CharSet) : CharSet := compl (a.compl.union b.compl)

/-- The characters of the first set that the second lacks. -/
def diff (a b : CharSet) : CharSet := a.inter b.compl

/-- The characters of exactly one of the sets. -/
def symmDiff (a b : CharSet) : CharSet := (a.diff b).union (b.diff a)

/-- Reads ranges written in hexadecimal, such as `41-5A 61`. -/
def ofText (s : String) : CharSet :=
  ⟨(Unicode.wordsOf s).filterMap fun word =>
    match (word.splitOn "-").map Unicode.hexValue with
    | [n] => some (n, n)
    | [lo, hi] => some (lo, hi)
    | _ => none⟩

/-- The text of the first entry that carries the name. -/
def named (table : List (String × String)) (name : String) : Option String :=
  (table.find? fun e => (Unicode.wordsOf e.1).contains name).map (·.2)

/-- The set of the first entry that carries the name. -/
def lookup (table : List (String × String)) (name : String) : Option CharSet :=
  (named table name).map ofText

end CharSet

end RowQuery
