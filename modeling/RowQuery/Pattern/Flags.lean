import RowQuery.Pattern.Defect
import RowQuery.Unicode.WhiteSpace
/-!
# Flags

What a pattern can switch on and off for the rest of a group. In verbose
mode white space and comments between the items of a pattern are passed
over; `Flags.skip` does so.
-/

namespace RowQuery

namespace Pattern

/-- What a flag letter stands for. -/
inductive Flag
  /-- Upper and lower case are the same. -/
  | ignoreCase
  /-- `^` and `$` hold at lines. -/
  | multiLine
  /-- `.` matches line feeds too. -/
  | dotAll
  /-- Repetitions prefer few rounds; no match as a whole depends on it. -/
  | swapGreed
  /-- Classes hold characters of all scripts. -/
  | unicode
  /-- Lines may end with a carriage return. -/
  | crlf
  /-- White space and comments are passed over. -/
  | verbose
deriving DecidableEq

/-- The flag that a letter stands for. -/
def Flag.ofChar? : Char → Option Flag
  | 'i' => some ignoreCase
  | 'm' => some multiLine
  | 's' => some dotAll
  | 'U' => some swapGreed
  | 'u' => some unicode
  | 'R' => some crlf
  | 'x' => some verbose
  | _ => none

/-- The flags that bear on what a pattern matches. -/
structure Flags where
  /-- Upper and lower case are the same. -/
  ignoreCase : Bool
  /-- `^` and `$` hold at lines. -/
  multiLine : Bool
  /-- `.` matches line feeds too. -/
  dotAll : Bool
  /-- Classes hold characters of all scripts. -/
  unicode : Bool
  /-- Lines may end with a carriage return. -/
  crlf : Bool
  /-- White space and comments are passed over. -/
  verbose : Bool
deriving DecidableEq

namespace Flags

/-- The flags at the start of a pattern. -/
def initial : Flags := ⟨false, false, false, true, false, false⟩

/-- Switches a flag. -/
def switch (f : Flags) (flag : Flag) (on : Bool) : Flags :=
  match flag with
  | .ignoreCase => { f with ignoreCase := on }
  | .multiLine => { f with multiLine := on }
  | .dotAll => { f with dotAll := on }
  | .swapGreed => f
  | .unicode => { f with unicode := on }
  | .crlf => { f with crlf := on }
  | .verbose => { f with verbose := on }

/-- Passes over white space and comments, from within a comment or not. A
comment ends behind a line feed. -/
def skipBlank (comment : Bool) : List Char → List Char
  | [] => []
  | c :: rest =>
    if comment then skipBlank (c ≠ '\n') rest
    else if Unicode.isWhiteSpace c then skipBlank false rest
    else if c = '#' then skipBlank true rest
    else c :: rest

/-- Passes over what has no meaning between two items. -/
def skip (f : Flags) (text : List Char) : List Char :=
  if f.verbose then skipBlank false text else text

theorem length_skipBlank_le (comment : Bool) (text : List Char) :
    (skipBlank comment text).length ≤ text.length := by
  induction text generalizing comment with
  | nil => simp [skipBlank]
  | cons c rest ih =>
    have hlen (comment : Bool) := Nat.le_succ_of_le (ih comment)
    rw [skipBlank]
    split
    · exact hlen _
    · split
      · exact hlen _
      · split
        · exact hlen _
        · exact Nat.le_refl _

/-- Nothing is added in passing over. -/
theorem length_skip_le (f : Flags) (text : List Char) : (f.skip text).length ≤ text.length := by
  unfold skip
  split
  · exact length_skipBlank_le false text
  · exact Nat.le_refl _

/-- Reads a list of flags up to the colon or the parenthesis that ends it,
which is left. `seen` are the flags given so far, `on` says whether they
were switched on, and `dangling` whether a negation waits for its flag. -/
def readList (f : Flags) (seen : List Flag) (on dangling : Bool) :
    List Char → Except Defect (Flags × List Flag × List Char)
  | [] => .error .unknownFlag
  | c :: rest =>
    if c = ':' ∨ c = ')' then
      if dangling then .error .danglingNegation else .ok (f, seen, c :: rest)
    else if c = '-' then
      if on then readList f seen false true rest else .error .repeatedFlag
    else match Flag.ofChar? c with
      | none => .error .unknownFlag
      | some flag =>
        if flag ∈ seen then .error .repeatedFlag
        else readList (f.switch flag on) (flag :: seen) on false rest

/-- What follows a list of flags is a part of the text. -/
theorem length_readList {f g : Flags} {seen used : List Flag} {on dangling : Bool}
    {text rest : List Char} (h : f.readList seen on dangling text = .ok (g, used, rest)) :
    rest.length ≤ text.length := by
  induction text generalizing f seen on dangling with
  | nil => simp [readList] at h
  | cons c text ih =>
    rw [readList] at h
    split at h
    · -- the character that ends the list is left
      split at h <;> cases h
      exact Nat.le_refl _
    · split at h
      · split at h
        · exact Nat.le_succ_of_le (ih h)
        · cases h
      · split at h
        · cases h
        · split at h
          · cases h
          · exact Nat.le_succ_of_le (ih h)

end Flags

end Pattern

end RowQuery
