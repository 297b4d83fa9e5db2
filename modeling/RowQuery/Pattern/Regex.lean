import RowQuery.Unicode.Property
/-!
# Regular expressions

An expression is built over atoms. The atoms of a pattern are character
sets, which take one character, and looks, which take none and hold by the
characters on either side. `Spans` says which stretches of a text an
expression matches; which of several matches a search would prefer is of no
account here, so repetitions are neither greedy nor lazy.
-/

namespace RowQuery

namespace Pattern

/-- How a place stands to a word. -/
inductive WordPlace
  /-- Between a word character and something else. -/
  | edge
  /-- Not at an edge. -/
  | noEdge
  /-- At the first character of a word. -/
  | start
  /-- Behind the last character of a word. -/
  | finish
  /-- Behind no word character. -/
  | startHalf
  /-- Before no word character. -/
  | finishHalf
deriving DecidableEq

/-- A condition on the place between two characters. -/
inductive Look
  /-- The start of the text. -/
  | textStart
  /-- The end of the text. -/
  | textEnd
  /-- The start of a line; lines end with a line feed, or with a carriage
  return, a line feed or both. -/
  | lineStart (crlf : Bool)
  /-- The end of a line. -/
  | lineEnd (crlf : Bool)
  /-- A place at a word, of ASCII or of all word characters. -/
  | word (place : WordPlace) (unicode : Bool)
deriving DecidableEq

/-- The word characters of ASCII. -/
def asciiWord : CharSet := ⟨[(0x30, 0x39), (0x41, 0x5A), (0x5F, 0x5F), (0x61, 0x7A)]⟩

/-- Whether the character that stands at one side of a place is a word
character. -/
def isWord (unicode : Bool) (side : Option Char) : Bool :=
  side.any (if unicode then Unicode.wordSet else asciiWord).has

/-- Whether a look holds between two characters; `none` is an end of the
text. -/
def Look.holds (before after : Option Char) : Look → Bool
  | textStart => before.isNone
  | textEnd => after.isNone
  | lineStart false => before.all (· = '\n')
  | lineEnd false => after.all (· = '\n')
  | lineStart true => before.all fun c => c = '\n' || (c = '\r' && after ≠ some '\n')
  | lineEnd true => after.all fun c => c = '\r' || (c = '\n' && before ≠ some '\r')
  | word place unicode =>
    let b := isWord unicode before
    let a := isWord unicode after
    match place with
    | .edge => a != b
    | .noEdge => a == b
    | .start => !b && a
    | .finish => b && !a
    | .startHalf => !b
    | .finishHalf => !a

/-- What an expression is made of. -/
inductive Atom
  /-- One character of a set. -/
  | chars (s : CharSet)
  /-- A condition on a place. -/
  | look (l : Look)
deriving DecidableEq

/-- A regular expression over atoms. -/
inductive Regex (α : Type)
  /-- Matches the empty stretch. -/
  | empty
  /-- Matches what the atom does. -/
  | atom (a : α)
  /-- Matches one expression and then another. -/
  | cat (r s : Regex α)
  /-- Matches either expression. -/
  | alt (r s : Regex α)
  /-- Matches an expression at least `min` times in a row, and at most `max`
  times if there is a bound. -/
  | repeated (r : Regex α) (min : Nat) (max : Option Nat)
  /-- Matches what the expression does; the match is a numbered one. -/
  | captured (r : Regex α)
deriving DecidableEq

namespace Regex

variable {α β : Type}

/-- The same expression over other atoms. -/
def map (f : α → β) : Regex α → Regex β
  | empty => empty
  | atom a => atom (f a)
  | cat r s => cat (r.map f) (s.map f)
  | alt r s => alt (r.map f) (s.map f)
  | repeated r min max => repeated (r.map f) min max
  | captured r => captured (r.map f)

/-- `Spans admits r i j`: the expression matches the stretch from place `i`
to place `j`, where `admits` says so of the atoms. -/
inductive Spans (admits : α → Nat → Nat → Prop) : Regex α → Nat → Nat → Prop
  /-- The empty expression matches at every place. -/
  | empty {i : Nat} : Spans admits empty i i
  /-- An atom matches where it is admitted. -/
  | atom {a : α} {i j : Nat} : admits a i j → Spans admits (atom a) i j
  /-- Two stretches in a row. -/
  | cat {r s : Regex α} {i j k : Nat} :
      Spans admits r i j → Spans admits s j k → Spans admits (cat r s) i k
  /-- The first of two expressions matches. -/
  | altLeft {r s : Regex α} {i j : Nat} : Spans admits r i j → Spans admits (alt r s) i j
  /-- The second of two expressions matches. -/
  | altRight {r s : Regex α} {i j : Nat} : Spans admits s i j → Spans admits (alt r s) i j
  /-- Enough repetitions were made. -/
  | enough {r : Regex α} {max : Option Nat} {i : Nat} : Spans admits (repeated r 0 max) i i
  /-- One repetition more, if the bound leaves room for it. -/
  | more {r : Regex α} {min : Nat} {max : Option Nat} {i j k : Nat} :
      max ≠ some 0 → Spans admits r i j →
      Spans admits (repeated r (min - 1) (max.map (· - 1))) j k →
      Spans admits (repeated r min max) i k
  /-- Numbering a match changes nothing. -/
  | captured {r : Regex α} {i j : Nat} : Spans admits r i j → Spans admits (captured r) i j

end Regex

/-- The stretches of a text that an atom matches. -/
def Atom.admits (text : List Char) : Atom → Nat → Nat → Prop
  | chars s, i, j => (∃ c, text[i]? = some c ∧ s.has c = true) ∧ j = i + 1
  | look l, i, j =>
    i ≤ text.length ∧ l.holds (if i = 0 then none else text[i - 1]?) text[i]? = true ∧ j = i

end Pattern

end RowQuery
