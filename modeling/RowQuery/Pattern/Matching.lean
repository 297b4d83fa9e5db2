import RowQuery.Pattern.Regex
/-!
# Matching

A set of places of a text is a number: place `i` is in it when bit `i` is
set. An atom then acts on all places at once, and an expression takes the
set of places where matches start to the set of places where they end
(`Regex.reach`). The work is bounded by the size of the expression and of
the text, whatever the expression is.
-/

namespace RowQuery

namespace Pattern

/-- How an atom acts on the places of one text: a match may start at the
given places, and ends `width` further on. -/
structure Gate where
  /-- The places where a match starts. -/
  places : Nat
  /-- The number of characters a match takes. -/
  width : Nat

/-- The set of the places at which a list of answers has `true`. -/
def placeSet (answers : List Bool) : Nat :=
  answers.foldr (fun b n => 2 * n + b.toNat) 0

/-- The action of an atom on the places of a text. -/
def Atom.gate (text : List Char) : Atom → Gate
  | chars s => ⟨placeSet (text.map s.has), 1⟩
  | look l =>
    let sides := (none :: text.map some).zip (text.map some ++ [none])
    ⟨placeSet (sides.map fun (before, after) => l.holds before after), 0⟩

/-- Applies a step a number of times; a step that changes nothing ends it. -/
def iterate (f : Nat → Nat) : Nat → Nat → Nat
  | 0, m => m
  | k + 1, m =>
    let next := f m
    if next = m then m else iterate f k next

/-- Adds to the places `seen` all that up to `k` steps lead to from the
places `fresh`; a step that leads to nothing new ends it. -/
def spread (f : Nat → Nat) : (k seen fresh : Nat) → Nat
  | 0, seen, _ => seen
  | k + 1, seen, fresh =>
    let found := f fresh
    let new := found ^^^ (found &&& seen)
    if new = 0 then seen else spread f k (seen ||| new) new

/-- The places where matches end that start at the places `m`, in a text
of `size` places. -/
def Regex.reach (size : Nat) : Regex Gate → Nat → Nat
  | empty, m => m
  | atom g, m => (m &&& g.places) <<< g.width
  | cat r s, m => s.reach size (r.reach size m)
  | alt r s, m => r.reach size m ||| s.reach size m
  | repeated r min max, m =>
    let entered := iterate (r.reach size) min m
    let further := match max with
      | none => size
      | some k => Nat.min size (k - min)
    spread (r.reach size) further entered entered
  | captured r, m => r.reach size m

/-- Whether an expression matches some stretch of a text. -/
def Regex.occursIn (r : Regex Atom) (text : List Char) : Bool :=
  let size := text.length + 1
  (r.map (Atom.gate text)).reach size (Nat.pow 2 size - 1) ≠ 0

end Pattern

end RowQuery
