import RowQuery.Pattern.Regex
/-!
# The size of expressions

The built-in engine refuses patterns when the automata for them would take too
much room. Where the line is drawn is a matter of the engine, and this one
counts for itself. The room is that of two automata over the bytes of UTF-8, one that reads
forward and one that reads backward: a fixed room for each state, and some
for each way out of a state. A repetition takes its expression as often as
the counts say, so short patterns can be large. Numbered groups leave marks
in the forward automaton only.

A set of characters takes a byte automaton of its own. Forward, states with
the same continuations are shared; backward, sequences of bytes share their
beginnings.
-/

namespace RowQuery

namespace Pattern

/-- A range of values of one byte. -/
abbrev ByteRange := Nat × Nat

namespace ByteSequences

/-- The bytes of the UTF-8 form of a code point. -/
def encode (n : Nat) : List Nat :=
  if n < 0x80 then [n]
  else if n < 0x800 then [0xC0 + n / 0x40, 0x80 + n % 0x40]
  else if n < 0x10000 then [0xE0 + n / 0x1000, 0x80 + n / 0x40 % 0x40, 0x80 + n % 0x40]
  else [0xF0 + n / 0x40000, 0x80 + n / 0x1000 % 0x40, 0x80 + n / 0x40 % 0x40, 0x80 + n % 0x40]

/-- The parts of a range whose code points have forms of one length each. -/
def byLength (lo hi : Nat) : List (Nat × Nat) :=
  [(0, 0x7F), (0x80, 0x7FF), (0x800, 0xD7FF), (0xE000, 0xFFFF), (0x10000, 0x10FFFF)].filterMap
    fun (a, b) => if max lo a ≤ min hi b then some (max lo a, min hi b) else none

/-- Cuts a range whose forms have one length where the last `i` bytes do
not run through all their values, `i` counting down from the given number. -/
def cut (i : Nat) (r : Nat × Nat) : List (Nat × Nat) :=
  match i with
  | 0 => [r]
  | i + 1 =>
    let block := Nat.pow 64 (i + 1)
    let (lo, hi) := r
    if lo / block = hi / block then cut i r
    else
      let first := if lo % block = 0 then [] else cut i (lo, lo / block * block + (block - 1))
      let last := if hi % block = block - 1 then [] else cut i (hi / block * block, hi)
      let start := if lo % block = 0 then lo else (lo / block + 1) * block
      let stop := if hi % block = block - 1 then hi else hi / block * block - 1
      first ++ (if start ≤ stop then [(start, stop)] else []) ++ last

/-- The sequences of byte ranges that spell the characters of a set. -/
def ofSet (s : CharSet) : List (List ByteRange) :=
  s.normal.ranges.flatMap fun (lo, hi) =>
    (byLength lo hi).flatMap fun (a, b) =>
      (cut ((encode a).length - 1) (a, b)).map fun (a, b) => (encode a).zip (encode b)

/-- The continuations behind each first byte range, sequences that start
with the same range together. -/
def continuations : List (List ByteRange) → List (List (List ByteRange))
  | [] => []
  | [] :: rest => continuations rest
  | (b :: bs) :: rest =>
    match rest, continuations rest with
    | (c :: _) :: _, group :: groups =>
      if b = c then (bs :: group) :: groups else [bs] :: group :: groups
    | _, groups => [bs] :: groups

/-- The states that lead to an end within a number of bytes, each by the
sequences it accepts. -/
def states : Nat → List (List ByteRange) → List (List (List ByteRange))
  | 0, _ => []
  | k + 1, node =>
    node :: (continuations node).flatMap fun next =>
      if next.all List.isEmpty then [] else states k next

/-- The number of distinct beginnings of ordered sequences. -/
def beginnings : List (List ByteRange) → Nat
  | [] => 0
  | [a] => a.length
  | a :: b :: rest =>
    let shared := ((a.zip b).takeWhile fun (x, y) => x = y).length
    a.length - shared + beginnings (b :: rest)

end ByteSequences

/-- The room of a state. -/
def stateRoom : Nat := 32

/-- The room of a choice between two or more ways, the ways included. -/
def choiceRoom (ways : Nat) : Nat := stateRoom + 4 * ways

/-- The room of a set of characters. A single character takes a state for
each byte of it. -/
def setRoom (forward : Bool) (s : CharSet) : Nat :=
  let ranges := s.normal.ranges
  match ranges with
  | [(lo, hi)] =>
    if lo = hi then stateRoom * (ByteSequences.encode lo).length else general ranges
  | _ => general ranges
where
  /-- The room of a set by its ordered ranges. -/
  general (ranges : List (Nat × Nat)) : Nat :=
    if ranges.all fun r => r.2 < 128 then 2 * stateRoom + 8 * ranges.length
    else
      let sequences := ByteSequences.ofSet ⟨ranges⟩
      if forward then
        let nodes := (ByteSequences.states 4 sequences).eraseDups
        nodes.foldl (fun room n => room + stateRoom + 8 * (ByteSequences.continuations n).length)
          stateRoom
      else choiceRoom sequences.length + stateRoom + stateRoom * ByteSequences.beginnings sequences

namespace Regex

/-- The set of an expression that matches one character of a set. -/
def asSet? : Regex Atom → Option CharSet
  | atom (.chars s) => some s
  | alt r s =>
    match r.asSet?, s.asSet? with
    | some a, some b => some (a.union b)
    | _, _ => none
  | repeated r 1 (some 1) => r.asSet?
  | _ => none

/-- Whether an expression takes no characters. -/
def isLook : Regex Atom → Bool
  | empty => true
  | atom (.look _) => true
  | atom (.chars _) => false
  | cat r s => r.isLook && s.isLook
  | alt r s => r.isLook && s.isLook
  | repeated r _ max => r.isLook || max = some 0
  | captured r => r.isLook

/-- Whether an expression takes at least one character. -/
def isProper : Regex Atom → Bool
  | empty => false
  | atom (.look _) => false
  | atom (.chars _) => true
  | cat r s => r.isProper || s.isProper
  | alt r s => r.isProper && s.isProper
  | repeated r min _ => r.isProper && min ≠ 0
  | captured r => r.isProper

/-- Whether an expression is empty but for its spelling. -/
def isVoid : Regex Atom → Bool
  | empty => true
  | cat r s => r.isVoid && s.isVoid
  | repeated r min max => max = some 0 || (min = 1 && max = some 1 && r.isVoid)
  | _ => false

/-- The room of a repetition of an expression that takes the room `one`. -/
def repeatedRoom (isProper : Bool) (one min : Nat) (max : Option Nat) : Nat :=
  match min, max with
  | 0, none =>
    if isProper then one + choiceRoom 2 else one + 2 * choiceRoom 2 + stateRoom
  | min, none => min * one + choiceRoom 2
  | 0, some 1 => one + choiceRoom 2 + stateRoom
  | min, some max =>
    if min = max then min * one
    else
      (if min = 0 then stateRoom else min * one) + stateRoom + (max - min) * (one + choiceRoom 2)

/-- The number of alternatives of an expression, and the room of them all. -/
def alternativesRoom (forward : Bool) (r : Regex Atom) : Nat × Nat :=
  match r.asSet? with
  | some s => (1, setRoom forward s)
  | none =>
    match r with
    | empty => (1, stateRoom)
    | atom _ => (1, stateRoom)
    | cat r s =>
      if r.isVoid then s.alternativesRoom forward
      else if s.isVoid then r.alternativesRoom forward
      else (1, total (r.alternativesRoom forward) + total (s.alternativesRoom forward))
    | alt r s =>
      let (k, a) := r.alternativesRoom forward
      let (l, b) := s.alternativesRoom forward
      (k + l, a + b)
    | repeated r min max =>
      let (min, max) :=
        if r.isLook then (Nat.min min 1, some ((max.getD 1).min 1)) else (min, max)
      if max = some 0 then (1, stateRoom)
      else if min = 1 && max = some 1 then r.alternativesRoom forward
      else (1, repeatedRoom r.isProper (total (r.alternativesRoom forward)) min max)
    | captured r =>
      (1, total (r.alternativesRoom forward) + if forward then 2 * stateRoom else 0)
where
  /-- The room of alternatives as one expression. -/
  total (ways : Nat × Nat) : Nat :=
    if ways.1 ≤ 1 then ways.2 else ways.2 + choiceRoom ways.1 + stateRoom

/-- Whether a look leads an expression, at its start or at its end. -/
def isLedBy (l : Look) (atStart : Bool) : Regex Atom → Bool
  | atom (.look m) => l = m
  | cat r s => if atStart then r.isLedBy l atStart else s.isLedBy l atStart
  | alt r s => r.isLedBy l atStart && s.isLedBy l atStart
  | captured r => r.isLedBy l atStart
  | _ => false

/-- The room of the automaton that searches for an expression. Unless it
can match at one place only, a loop over all bytes comes before it. -/
def room (forward : Bool) (r : Regex Atom) : Nat :=
  let anchored := r.isLedBy (if forward then .textStart else .textEnd) forward
  let loop := if anchored then stateRoom else 2 * stateRoom + 8 + choiceRoom 2
  let marks := if forward then 2 * stateRoom else 0
  loop + marks + stateRoom + alternativesRoom.total (r.alternativesRoom forward)

end Regex

/-- The largest room of an automaton, ten times 2 to the power of 20. -/
def roomBound : Nat := 10485760

/-- Whether the automata of an expression are within the bound. -/
def Regex.fits (r : Regex Atom) : Bool :=
  r.room true ≤ roomBound && r.room false ≤ roomBound

end Pattern

end RowQuery
