import RowQuery.Json.Number
import RowQuery.Text.Reading
/-!
# Reading JSON

Strict reading of JSON texts: one value, with nothing but blanks around it.
Containers may be nested up to a bound, of equal keys in one object the last
one counts, and a code unit of a surrogate pair has to be written with its
partner. The loop keeps the containers that are open on a stack.
-/

namespace RowQuery

namespace Json

/-- Why a text is no JSON value. -/
inductive Defect
  /-- The text ends within a value. -/
  | unfinished
  /-- A character that does not fit. -/
  | unexpected (c : Char)
  /-- A string holds a control character or a malformed escape. -/
  | malformedString
  /-- A number is malformed. -/
  | malformedNumber
  /-- A number is too large for a double. -/
  | numberTooLarge
  /-- Containers are nested too deep. -/
  | tooDeep
deriving DecidableEq

/-- The defect in words. -/
def Defect.describe : Defect → String
  | unfinished => "the text ends within a value"
  | unexpected c => "unexpected character '" ++ c.toString ++ "'"
  | malformedString => "malformed string"
  | malformedNumber => "malformed number"
  | numberTooLarge => "number out of range"
  | tooDeep => "nested too deep"

/-- The result of reading from the start of a text. -/
abbrev Reading := Text.Reading Defect

/-- Whether a character may stand between the words of a text. -/
def isBlank (c : Char) : Bool :=
  c = ' ' || c = '\t' || c = '\n' || c = '\r'

/-- Passes over blanks. -/
def skip (text : List Char) : List Char :=
  text.dropWhile isBlank

theorem length_skip_le (text : List Char) : (skip text).length ≤ text.length :=
  (List.dropWhile_sublist _).length_le

theorem length_lt_of_skip {c : Char} {text rest : List Char} (h : skip text = c :: rest) :
    rest.length < text.length := by
  have := length_skip_le text
  rw [h] at this
  exact this

/-- A piece of a string. -/
inductive Piece
  /-- A character, as it is or by a letter escape. -/
  | char (c : Char)
  /-- A code unit of 16 bits. -/
  | unit (n : Nat)

/-- The code unit of four hexadecimal digits. -/
def codeUnit? (a b c d : Char) : Option Nat :=
  match Text.hexDigit? a, Text.hexDigit? b, Text.hexDigit? c, Text.hexDigit? d with
  | some a, some b, some c, some d => some (0x1000 * a + 0x100 * b + 0x10 * c + d)
  | _, _, _, _ => none

/-- The characters that have an escape of one letter. -/
def letterEscape? : Char → Option Char
  | '"' => some '"'
  | '\\' => some '\\'
  | '/' => some '/'
  | 'b' => some '\x08'
  | 'f' => some '\x0c'
  | 'n' => some '\n'
  | 'r' => some '\r'
  | 't' => some '\t'
  | _ => none

/-- The pieces of a string, from behind its opening quote, and the rest. -/
def pieces : List Char → Reading (List Piece)
  | [] => .error .unfinished
  | '"' :: rest => .ok ([], rest)
  | '\\' :: 'u' :: a :: b :: c :: d :: rest =>
    match codeUnit? a b c d with
    | some n => (pieces rest).map fun (ps, rest) => (.unit n :: ps, rest)
    | none => .error .malformedString
  | '\\' :: c :: rest =>
    match letterEscape? c with
    | some c => (pieces rest).map fun (ps, rest) => (.char c :: ps, rest)
    | none => .error .malformedString
  | c :: rest =>
    if c.toNat < 0x20 ∨ c = '\\' then .error .malformedString
    else (pieces rest).map fun (ps, rest) => (.char c :: ps, rest)

/-- Whether a code unit is the first of a pair. -/
def isLeading (n : Nat) : Bool := 0xD800 ≤ n && n < 0xDC00

/-- Whether a code unit is the second of a pair. -/
def isTrailing (n : Nat) : Bool := 0xDC00 ≤ n && n < 0xE000

/-- The characters that pieces spell; code units of pairs have to stand
together. -/
def assemble : List Piece → Option (List Char)
  | [] => some []
  | .char c :: rest => (assemble rest).map (c :: ·)
  | .unit n :: .unit m :: rest =>
    if isLeading n then
      if isTrailing m then
        (assemble rest).map (Char.ofNat (0x10000 + 0x400 * (n - 0xD800) + (m - 0xDC00)) :: ·)
      else none
    else if isTrailing n then none
    else (assemble (.unit m :: rest)).map (Char.ofNat n :: ·)
  | .unit n :: rest =>
    if isLeading n || isTrailing n then none else (assemble rest).map (Char.ofNat n :: ·)

/-- Reads a string, from behind its opening quote. -/
def string? (text : List Char) : Reading String :=
  match pieces text with
  | .error e => .error e
  | .ok (ps, rest) =>
    match assemble ps with
    | some cs => .ok (String.ofList cs, rest)
    | none => .error .malformedString

/-- Splits digits off. -/
def digits (text : List Char) : List Char × List Char :=
  (text.takeWhile Char.isDigit, text.dropWhile Char.isDigit)

/-- Reads the fraction of a number, if there is one. -/
def fraction (text : List Char) : Reading (Option (List Char)) :=
  match text with
  | '.' :: rest =>
    let (ds, rest) := digits rest
    if ds.isEmpty then .error .malformedNumber else .ok (some ds, rest)
  | text => .ok (none, text)

/-- Reads the exponent of a number, if there is one. -/
def exponent (text : List Char) : Reading (Option (Bool × List Char)) :=
  match text with
  | c :: rest =>
    if c = 'e' ∨ c = 'E' then
      let (down, rest) := match rest with
        | '-' :: rest => (true, rest)
        | '+' :: rest => (false, rest)
        | rest => (false, rest)
      let (ds, rest) := digits rest
      if ds.isEmpty then .error .malformedNumber else .ok (some (down, ds), rest)
    else .ok (none, text)
  | [] => .ok (none, [])

/-- Reads a number. A zero before the point stands alone. -/
def number? (text : List Char) : Reading JsonNumber :=
  let (negative, text) := match text with
    | '-' :: rest => (true, rest)
    | text => (false, text)
  let (whole, rest) := digits text
  if whole.isEmpty ∨ (whole.head? = some '0' ∧ whole ≠ ['0']) then .error .malformedNumber
  else match fraction rest with
    | .error e => .error e
    | .ok (fraction, rest) =>
      match exponent rest with
      | .error e => .error e
      | .ok (exponent, rest) =>
        match JsonNumber.ofLiteral? ⟨negative, whole, fraction, exponent⟩ with
        | some n => .ok (n, rest)
        | none => .error .numberTooLarge

/-- The values that are written as words. -/
def words : List (List Char × Json) :=
  [("null".toList, null), ("true".toList, bool true), ("false".toList, bool false)]

/-- Reads a value that is no container. -/
def scalar? (text : List Char) : Reading Json :=
  match text with
  | [] => .error .unfinished
  | '"' :: rest => (string? rest).map fun (s, rest) => (string s, rest)
  | c :: rest =>
    if c = '-' ∨ c.isDigit then (number? (c :: rest)).map fun (n, rest) => (number n, rest)
    else match words.find? fun w => w.1.isPrefixOf (c :: rest) with
      | some (word, v) => .ok (v, (c :: rest).drop word.length)
      | none => .error (.unexpected c)

/-- Reads the key of a member and the colon behind it. -/
def key? (text : List Char) : Reading String :=
  match skip text with
  | [] => .error .unfinished
  | '"' :: rest =>
    match string? rest with
    | .error e => .error e
    | .ok (key, rest) =>
      match skip rest with
      | [] => .error .unfinished
      | ':' :: rest => .ok (key, rest)
      | c :: _ => .error (.unexpected c)
  | c :: _ => .error (.unexpected c)

section Length

variable {text rest : List Char}

theorem length_pieces {ps : List Piece} (h : pieces text = .ok (ps, rest)) :
    rest.length < text.length := by
  fun_induction pieces text generalizing ps rest with
  | case1 | case4 | case6 | case7 => cases h
  | case2 => cases h; exact Nat.lt_succ_self _
  | case3 a b c d tail n hn ih =>
    obtain ⟨⟨ps, behind⟩, hp, heq⟩ := Text.exists_of_map_eq_ok h
    cases heq
    have hlt := ih hp
    simp only [List.length_cons]
    omega
  | case5 c tail _ d hd ih =>
    obtain ⟨⟨ps, behind⟩, hp, heq⟩ := Text.exists_of_map_eq_ok h
    cases heq
    exact Nat.lt_succ_of_lt (Nat.lt_succ_of_lt (ih hp))
  | case8 c tail _ _ _ _ ih =>
    obtain ⟨⟨ps, behind⟩, hp, heq⟩ := Text.exists_of_map_eq_ok h
    cases heq
    exact Nat.lt_succ_of_lt (ih hp)

theorem length_string? {s : String} (h : string? text = .ok (s, rest)) :
    rest.length < text.length := by
  unfold string? at h
  split at h
  · cases h
  · next hp =>
    split at h <;> cases h
    exact length_pieces hp

theorem length_digits_le (text : List Char) : (digits text).2.length ≤ text.length :=
  (List.dropWhile_sublist _).length_le

theorem length_digits_lt (text : List Char) (h : (digits text).1 ≠ []) :
    (digits text).2.length < text.length := by
  have := congrArg List.length (List.takeWhile_append_dropWhile (p := Char.isDigit) (l := text))
  have := List.length_pos_iff.2 h
  simp only [digits, List.length_append] at *
  omega

theorem length_fraction {ds : Option (List Char)} (h : fraction text = .ok (ds, rest)) :
    rest.length ≤ text.length := by
  unfold fraction at h
  split at h
  · next tail =>
    have hdigits := length_digits_le tail
    dsimp only at h
    split at h <;> cases h
    exact Nat.le_succ_of_le hdigits
  · cases h
    exact Nat.le_refl _

theorem length_exponent {e : Option (Bool × List Char)} (h : exponent text = .ok (e, rest)) :
    rest.length ≤ text.length := by
  unfold exponent at h
  split at h
  · next c tail =>
    split at h
    · split at h
      next down behind hsign =>
      have hbehind : behind.length ≤ tail.length := by
        split at hsign <;> cases hsign
        · exact Nat.le_succ _
        · exact Nat.le_succ _
        · exact Nat.le_refl _
      have hdigits := length_digits_le behind
      dsimp only at h
      split at h <;> cases h
      exact Nat.le_succ_of_le (Nat.le_trans hdigits hbehind)
    · cases h
      exact Nat.le_refl _
  · cases h
    exact Nat.le_refl _

theorem length_number? {n : JsonNumber} (h : number? text = .ok (n, rest)) :
    rest.length < text.length := by
  unfold number? at h
  split at h
  next negative behind hsign =>
  have hbehind : behind.length ≤ text.length := by
    split at hsign <;> cases hsign
    · exact Nat.le_succ _
    · exact Nat.le_refl _
  dsimp only at h
  split at h
  · cases h
  · next hw =>
    have hwhole := length_digits_lt behind (by simp_all)
    split at h
    · cases h
    · next hf =>
      have hfraction := length_fraction hf
      split at h
      · cases h
      · next he =>
        have hexponent := length_exponent he
        split at h <;> cases h
        omega

theorem length_scalar? {v : Json} (h : scalar? text = .ok (v, rest)) :
    rest.length < text.length := by
  unfold scalar? at h
  split at h
  · cases h
  · obtain ⟨⟨s, behind⟩, hs, heq⟩ := Text.exists_of_map_eq_ok h
    cases heq
    exact Nat.lt_succ_of_lt (length_string? hs)
  · split at h
    · obtain ⟨⟨n, behind⟩, hn, heq⟩ := Text.exists_of_map_eq_ok h
      cases heq
      exact length_number? hn
    · split at h
      · next word v hw =>
        -- no word is empty
        have hword : 0 < word.length := by
          have hmem := List.mem_of_find?_eq_some hw
          simp only [words, List.mem_cons, Prod.mk.injEq, List.not_mem_nil, or_false] at hmem
          rcases hmem with ⟨rfl, -⟩ | ⟨rfl, -⟩ | ⟨rfl, -⟩ <;> decide
        cases h
        simp only [List.length_drop, List.length_cons]
        omega
      · cases h

theorem length_key? {key : String} (h : key? text = .ok (key, rest)) :
    rest.length < text.length := by
  have hskip := length_skip_le text
  unfold key? at h
  split at h
  · cases h
  · next hq =>
    simp only [hq, List.length_cons] at hskip
    split at h
    · cases h
    · next tail hk =>
      have hstring := length_string? hk
      have hskip' := length_skip_le tail
      split at h
      · cases h
      · next hc =>
        cases h
        simp only [hc, List.length_cons] at hskip'
        omega
      · cases h
  · cases h

end Length

/-- A container that is not closed yet. -/
inductive Opened
  /-- An array, with its values so far, last one first. -/
  | array (items : List Json)
  /-- An object, with its members so far and the key of the next one. -/
  | object (members : List (String × Json)) (key : String)

/-- How deep containers may be nested. -/
def depthBound : Nat := 127

mutual

/-- Reads on where a value has to follow, the containers around it given
nearest first. -/
def readValue (outer : List Opened) (text : List Char) : Except Defect Json :=
  match ht : skip text with
  | '[' :: inner =>
    have taken := length_lt_of_skip ht
    if depthBound ≤ outer.length then .error .tooDeep
    else match hi : skip inner with
      | ']' :: rest =>
        have := Nat.lt_trans (length_lt_of_skip hi) taken
        readOn outer (.array []) rest
      | rest =>
        have : rest.length < text.length := hi ▸ Nat.lt_of_le_of_lt (length_skip_le inner) taken
        readValue (.array [] :: outer) rest
  | '\x7b' :: inner =>
    have taken := length_lt_of_skip ht
    if depthBound ≤ outer.length then .error .tooDeep
    else match hi : skip inner with
      | '\x7d' :: rest =>
        have := Nat.lt_trans (length_lt_of_skip hi) taken
        readOn outer (.object []) rest
      | member =>
        match hk : key? member with
        | .error e => .error e
        | .ok (key, rest) =>
          have : rest.length < text.length :=
            Nat.lt_trans (length_key? hk) (hi ▸ Nat.lt_of_le_of_lt (length_skip_le inner) taken)
          readValue (.object [] key :: outer) rest
  | word =>
    match hs : scalar? word with
    | .error e => .error e
    | .ok (v, rest) =>
      have : rest.length < text.length :=
        Nat.lt_of_lt_of_le (length_scalar? hs) (ht ▸ length_skip_le text)
      readOn outer v rest
termination_by text.length

/-- Reads on behind a value. -/
def readOn (outer : List Opened) (v : Json) (text : List Char) : Except Defect Json :=
  match outer, ht : skip text with
  | [], [] => .ok v
  | [], c :: _ => .error (.unexpected c)
  | _ :: _, [] => .error .unfinished
  | .array items :: outer, c :: rest =>
    have := length_lt_of_skip ht
    if c = ',' then readValue (.array (v :: items) :: outer) rest
    else if c = ']' then readOn outer (.array (v :: items).reverse) rest
    else .error (.unexpected c)
  | .object members key :: outer, c :: rest =>
    have taken := length_lt_of_skip ht
    if c = ',' then
      match hk : key? rest with
      | .error e => .error e
      | .ok (next, after) =>
        have := Nat.lt_trans (length_key? hk) taken
        readValue (.object (insert key v members) next :: outer) after
    else if c = '\x7d' then readOn outer (.object (insert key v members)) rest
    else .error (.unexpected c)
termination_by text.length

end

/-- The value of a JSON text. -/
def ofText (s : String) : Except Defect Json :=
  readValue [] s.toList

end Json

end RowQuery
