import RowQuery.Pattern.Flags
import RowQuery.Pattern.Regex
import RowQuery.Text.Decimal
import RowQuery.Text.Reading
import RowQuery.Unicode.Folding
/-!
# Escapes

What a backslash makes of the characters behind it: a character, a set of
characters or a condition on the place. Every function here reads from the
start of a text and gives back what is left, which is a part of the text.
-/

namespace RowQuery

namespace Pattern

/-- What an escape stands for. -/
inductive Escape
  /-- A character. -/
  | literal (c : Char)
  /-- A set of characters. -/
  | chars (s : CharSet)
  /-- A condition on the place. -/
  | look (l : Look)

/-- The result of reading from the start of a text. -/
abbrev Reading := Text.Reading Defect

/-- The set with the other cases of its members, where case is ignored. -/
def Flags.fold (f : Flags) (s : CharSet) : CharSet :=
  if f.ignoreCase then (if f.unicode then s.folded else s.asciiFolded) else s

/-- The set, or its complement. Without Unicode a complement would hold
parts of characters. -/
def Flags.negate (f : Flags) (negated : Bool) (s : CharSet) : Except Defect CharSet :=
  if !negated then .ok s else if f.unicode then .ok s.compl else .error .unicodeOff

namespace Escape

/-- Reads a fixed number of hexadecimal digits. -/
def hexDigits (f : Flags) : (count value : Nat) → List Char → Reading Nat
  | 0, value, text => .ok (value, text)
  | count + 1, value, text =>
    match f.skip text with
    | [] => .error .unfinishedEscape
    | c :: rest =>
      match Text.hexDigit? c with
      | some d => hexDigits f count (16 * value + d) rest
      | none => .error .malformedCode

/-- Reads up to a closing brace, which is taken as well. -/
def braced (f : Flags) (text : List Char) : Reading (List Char) :=
  match h : f.skip text with
  | [] => .error .unfinishedEscape
  | c :: rest =>
    if c = '}' then .ok ([], rest)
    else
      have : rest.length < text.length := by
        have := f.length_skip_le text
        simp [h] at this
        omega
      (braced f rest).map fun (inner, rest) => (c :: inner, rest)
termination_by text.length

/-- The number that hexadecimal digits spell. -/
def hexNumber? (digits : List Char) : Option Nat :=
  if digits.isEmpty then none
  else digits.foldl (fun n c => n.bind fun n => (Text.hexDigit? c).map (16 * n + ·)) (some 0)

/-- The character of a code point. -/
def character (n : Nat) : Except Defect Char :=
  if n.isValidChar then .ok (Char.ofNat n) else .error .malformedCode

/-- Reads a code point of `count` hexadecimal digits, or of any number of
them in braces. Without Unicode, two digits are one byte of a character and
must not be a part of a longer one. -/
def code (f : Flags) (count : Nat) (text : List Char) : Reading Escape :=
  match f.skip text with
  | [] => .error .unfinishedEscape
  | '\x7b' :: rest =>
    match braced f rest with
    | .error e => .error e
    | .ok (digits, rest) =>
      match hexNumber? digits with
      | none => .error .malformedCode
      | some n => (character n).map fun c => (.literal c, rest)
  | text =>
    match hexDigits f count 0 text with
    | .error e => .error e
    | .ok (n, rest) =>
      if !f.unicode && count = 2 && 128 ≤ n then .error .unicodeOff
      else (character n).map fun c => (.literal c, rest)

/-- The characters that a property query asks for, or all others. -/
def propertySet (f : Flags) (negated : Bool) (query : List Char) : Except Defect CharSet :=
  if !f.unicode then .error .unicodeOff
  else match Unicode.property? query with
    | none => .error .unknownProperty
    | some s => f.negate negated (f.fold s)

/-- Reads a property: one letter, or a query in braces. -/
def property (f : Flags) (negated : Bool) (text : List Char) : Reading Escape :=
  match f.skip text with
  | [] => .error .unfinishedEscape
  | '\x7b' :: rest =>
    match braced f rest with
    | .error e => .error e
    | .ok (query, rest) => (propertySet f negated query).map fun s => (.chars s, rest)
  | c :: rest =>
    if c = '\\' then .error .unknownProperty
    else (propertySet f negated [c]).map fun s => (.chars s, rest)

/-- The places at a word that have a name. -/
def wordPlaces : List (String × WordPlace) :=
  [("start", .start), ("end", .finish), ("start-half", .startHalf), ("end-half", .finishHalf)]

/-- Whether a character can stand in the name of a place. -/
def isPlaceChar (c : Char) : Bool :=
  c.isAlpha || c = '-'

/-- Reads the name of a place up to the closing brace. -/
def placeName (f : Flags) (text : List Char) : Reading (List Char) :=
  match text with
  | [] => .error .unknownBoundary
  | c :: rest =>
    if c = '}' then .ok ([], rest)
    else if isPlaceChar c then
      (placeName f (f.skip rest)).map fun (name, rest) => (c :: name, rest)
    else .error .unknownBoundary
termination_by text.length
decreasing_by exact Nat.lt_succ_of_le (f.length_skip_le rest)

/-- Reads what follows the sign of a word boundary: the name of a place in
braces, if a letter or a hyphen stands behind the brace, and else nothing. -/
def boundary (f : Flags) (text : List Char) : Reading WordPlace :=
  match text with
  | '\x7b' :: rest =>
    match f.skip rest with
    | [] => .error .unknownBoundary
    | c :: inner =>
      if isPlaceChar c then
        match placeName f (c :: inner) with
        | .error e => .error e
        | .ok (name, rest) =>
          match wordPlaces.find? fun p => p.1.toList = name with
          | some (_, place) => .ok (place, rest)
          | none => .error .unknownBoundary
      else .ok (.edge, text)
  | _ => .ok (.edge, text)

/-- The set of a class letter. -/
def classSet (f : Flags) (c : Char) : CharSet :=
  match c.toLower with
  | 'd' => if f.unicode then Unicode.digits else .range 0x30 0x39
  | 's' => if f.unicode then Unicode.whiteSpace else ⟨[(0x9, 0xD), (0x20, 0x20)]⟩
  | _ => if f.unicode then Unicode.wordSet else asciiWord

/-- The control characters that have a letter. -/
def controls : List (Char × Char) :=
  [('a', '\x07'), ('f', '\x0c'), ('t', '\t'), ('n', '\n'), ('r', '\r'), ('v', '\x0b')]

/-- Whether a backslash before the character leaves it as it is: so it does
for ASCII characters that are no letters, digits or angle brackets. -/
def isPlain (c : Char) : Bool :=
  c.toNat < 128 && !c.isAlphanum && c ≠ '<' && c ≠ '>'

/-- Reads what follows a backslash. -/
def read (f : Flags) (text : List Char) : Reading Escape :=
  match text with
  | [] => .error .unfinishedEscape
  | c :: rest =>
    if isPlain c then .ok (.literal c, rest)
    else match c with
      | 'x' => code f 2 rest
      | 'u' => code f 4 rest
      | 'U' => code f 8 rest
      | 'p' => property f false rest
      | 'P' => property f true rest
      | 'd' | 's' | 'w' => .ok (.chars (classSet f c), rest)
      | 'D' | 'S' | 'W' => (f.negate true (classSet f c)).map fun s => (.chars s, rest)
      | 'A' => .ok (.look .textStart, rest)
      | 'z' => .ok (.look .textEnd, rest)
      | 'B' => .ok (.look (.word .noEdge f.unicode), rest)
      | '<' => .ok (.look (.word .start f.unicode), rest)
      | '>' => .ok (.look (.word .finish f.unicode), rest)
      | 'b' => (boundary f rest).map fun (place, rest) => (.look (.word place f.unicode), rest)
      | c =>
        match controls.find? (·.1 = c) with
        | some (_, control) => .ok (.literal control, rest)
        | none => .error (.unknownEscape c)

variable {f : Flags} {text rest : List Char}

theorem length_hexDigits {count value n : Nat} (h : hexDigits f count value text = .ok (n, rest)) :
    rest.length ≤ text.length := by
  induction count generalizing value text with
  | zero =>
    cases h
    exact Nat.le_refl _
  | succ count ih =>
    have hskip := f.length_skip_le text
    rw [hexDigits] at h
    split at h
    · cases h
    · next c tail hs =>
      split at h
      · have hdigits := ih h
        simp only [hs, List.length_cons] at hskip
        omega
      · cases h

theorem length_braced {inner : List Char} (h : braced f text = .ok (inner, rest)) :
    rest.length < text.length := by
  fun_induction braced f text generalizing inner rest with
  | case1 => simp at h
  | case2 text tail hs =>
    have hskip := f.length_skip_le text
    cases h
    simp only [hs, List.length_cons] at hskip
    omega
  | case3 text c tail hs hc hl ih =>
    obtain ⟨⟨inner, behind⟩, hb, heq⟩ := Text.exists_of_map_eq_ok h
    cases heq
    exact Nat.lt_trans (ih hb) hl

theorem length_code {count : Nat} {e : Escape} (h : code f count text = .ok (e, rest)) :
    rest.length ≤ text.length := by
  have hskip := f.length_skip_le text
  unfold code at h
  split at h
  · cases h
  · next hs =>
    split at h
    · cases h
    · next hb =>
      have hbraced := length_braced hb
      simp only [hs, List.length_cons] at hskip
      split at h
      · cases h
      · obtain ⟨c, -, heq⟩ := Text.exists_of_map_eq_ok h
        cases heq
        omega
  · split at h
    · cases h
    · next hd =>
      have hdigits := length_hexDigits hd
      split at h
      · cases h
      · obtain ⟨c, -, heq⟩ := Text.exists_of_map_eq_ok h
        cases heq
        exact Nat.le_trans hdigits hskip

theorem length_property {negated : Bool} {e : Escape}
    (h : property f negated text = .ok (e, rest)) : rest.length ≤ text.length := by
  have hskip := f.length_skip_le text
  unfold property at h
  split at h
  · cases h
  · next hs =>
    split at h
    · cases h
    · next hb =>
      have hbraced := length_braced hb
      simp only [hs, List.length_cons] at hskip
      obtain ⟨s, -, heq⟩ := Text.exists_of_map_eq_ok h
      cases heq
      omega
  · next hs =>
    split at h
    · cases h
    · simp only [hs, List.length_cons] at hskip
      obtain ⟨s, -, heq⟩ := Text.exists_of_map_eq_ok h
      cases heq
      omega

theorem length_placeName {name : List Char} (h : placeName f text = .ok (name, rest)) :
    rest.length ≤ text.length := by
  fun_induction placeName f text generalizing name rest with
  | case1 => simp at h
  | case2 tail =>
    cases h
    exact Nat.le_succ _
  | case3 c tail hc hp ih =>
    have hskip := f.length_skip_le tail
    obtain ⟨⟨name, behind⟩, hn, heq⟩ := Text.exists_of_map_eq_ok h
    cases heq
    exact Nat.le_succ_of_le (Nat.le_trans (ih hn) hskip)
  | case4 => simp at h

theorem length_boundary {place : WordPlace} (h : boundary f text = .ok (place, rest)) :
    rest.length ≤ text.length := by
  unfold boundary at h
  split at h
  · next tail =>
    have hskip := f.length_skip_le tail
    split at h
    · cases h
    · next hs =>
      split at h
      · split at h
        · cases h
        · next hp =>
          have hname := length_placeName hp
          rw [← hs] at hname
          split at h
          · cases h
            exact Nat.le_succ_of_le (Nat.le_trans hname hskip)
          · cases h
      · -- no place is named, and the brace is left for a repetition
        cases h
        exact Nat.le_refl _
  · cases h
    exact Nat.le_refl _

/-- An escape takes at least the character behind the backslash. -/
theorem length_read {e : Escape} (h : read f text = .ok (e, rest)) :
    rest.length < text.length := by
  unfold read at h
  split at h
  · simp at h
  · rename_i c tail
    split at h
    · cases h
      exact Nat.lt_succ_self _
    · split at h
      case h_1 | h_2 | h_3 => exact Nat.lt_succ_of_le (length_code h)
      case h_4 | h_5 => exact Nat.lt_succ_of_le (length_property h)
      case h_9 | h_10 | h_11 =>
        obtain ⟨s, -, heq⟩ := Text.exists_of_map_eq_ok h
        cases heq
        exact Nat.lt_succ_self _
      case h_17 =>
        obtain ⟨⟨place, behind⟩, hb, heq⟩ := Text.exists_of_map_eq_ok h
        cases heq
        exact Nat.lt_succ_of_le (length_boundary hb)
      case h_18 =>
        split at h
        · cases h
          exact Nat.lt_succ_self _
        · cases h
      all_goals
        cases h
        exact Nat.lt_succ_self _

end Escape

end Pattern

end RowQuery
