import RowQuery.Pattern.Escape
/-!
# Brackets

A bracket spells a set of characters: characters, ranges, escapes, named
ASCII classes and further brackets, joined by nothing (union) or by the
operators `&&`, `--` and `~~`, which group to the left and bind looser than
union. Besides the set, reading finds how deep the bracket is nested, since
patterns may not be nested without bound.
-/

namespace RowQuery

namespace Pattern

namespace Bracket

/-- A set with the depth of its spelling. -/
structure Nested where
  /-- The characters. -/
  set : CharSet
  /-- How deep the spelling is nested. -/
  depth : Nat

/-- An operator between sets. -/
inductive Joint
  /-- The characters of both. -/
  | inter
  /-- The characters of the left without those of the right. -/
  | diff
  /-- The characters of one but not of both. -/
  | symmDiff

/-- The set that an operator makes. -/
def Joint.apply : Joint → CharSet → CharSet → CharSet
  | inter => CharSet.inter
  | diff => CharSet.diff
  | symmDiff => CharSet.symmDiff

/-- A bracket that is not closed yet. -/
structure Opened where
  /-- Whether it spells the complement. -/
  negated : Bool
  /-- What stands to the left of the last operator, and the operator. -/
  left : Option (Nested × Joint)
  /-- The union of the items since then. -/
  items : Nested
  /-- The number of these items. -/
  count : Nat

namespace Opened

/-- A bracket without items. -/
def start (negated : Bool) : Opened := ⟨negated, none, ⟨.empty, 0⟩, 0⟩

/-- Adds an item. -/
def add (o : Opened) (item : Nested) : Opened :=
  { o with
    items := ⟨o.items.set.union item.set, max o.items.depth item.depth⟩
    count := o.count + 1 }

/-- Adds a character to the items. -/
def addChar (o : Opened) (c : Char) : Opened :=
  o.add ⟨.single c.toNat, 0⟩

/-- The items as one set; two or more are a level of their own. -/
def union (o : Opened) : Nested :=
  if o.count ≤ 1 then o.items else ⟨o.items.set, o.items.depth + 1⟩

/-- All that was read as one set. The operands of an operator are folded
before it is applied. -/
def joined (f : Flags) (o : Opened) : Nested :=
  match o.left with
  | none => o.union
  | some (l, joint) =>
    ⟨joint.apply (f.fold l.set) (f.fold o.union.set), max l.depth o.union.depth + 1⟩

/-- Goes on behind an operator. -/
def join (f : Flags) (o : Opened) (joint : Joint) : Opened :=
  { start o.negated with left := some (o.joined f, joint) }

/-- The set of the closed bracket. -/
def close (f : Flags) (o : Opened) : Except Defect Nested :=
  let all := o.joined f
  (f.negate o.negated (f.fold all.set)).map fun s => ⟨s, all.depth + 1⟩

end Opened

/-- The ASCII classes that have a name. -/
def asciiClasses : List (String × CharSet) :=
  [("alnum", ⟨[(0x30, 0x39), (0x41, 0x5A), (0x61, 0x7A)]⟩),
   ("alpha", ⟨[(0x41, 0x5A), (0x61, 0x7A)]⟩),
   ("ascii", ⟨[(0x0, 0x7F)]⟩),
   ("blank", ⟨[(0x9, 0x9), (0x20, 0x20)]⟩),
   ("cntrl", ⟨[(0x0, 0x1F), (0x7F, 0x7F)]⟩),
   ("digit", ⟨[(0x30, 0x39)]⟩),
   ("graph", ⟨[(0x21, 0x7E)]⟩),
   ("lower", ⟨[(0x61, 0x7A)]⟩),
   ("print", ⟨[(0x20, 0x7E)]⟩),
   ("punct", ⟨[(0x21, 0x2F), (0x3A, 0x40), (0x5B, 0x60), (0x7B, 0x7E)]⟩),
   ("space", ⟨[(0x9, 0xD), (0x20, 0x20)]⟩),
   ("upper", ⟨[(0x41, 0x5A)]⟩),
   ("word", asciiWord),
   ("xdigit", ⟨[(0x30, 0x39), (0x41, 0x46), (0x61, 0x66)]⟩)]

/-- Reads the name of an ASCII class up to the closing bracket. -/
def asciiName? (text : List Char) : Option (CharSet × List Char) :=
  match text.dropWhile (· ≠ ':') with
  | ':' :: ']' :: rest =>
    (asciiClasses.find? fun k => k.1.toList = text.takeWhile (· ≠ ':')).map fun (_, s) => (s, rest)
  | _ => none

/-- Reads a named ASCII class behind its bracket, such as `:alpha:]` or
`:^alpha:]`: whether it is negated, its set and the rest. -/
def asciiClass? : List Char → Option (Bool × CharSet × List Char)
  | ':' :: '^' :: name => (asciiName? name).map (true, ·)
  | ':' :: name => (asciiName? name).map (false, ·)
  | _ => none

/-- Takes the hyphens at the start of a bracket as its first items. -/
def hyphens (f : Flags) (o : Opened) (text : List Char) : Opened × List Char :=
  match h : f.skip text with
  | '-' :: rest =>
    have : rest.length < text.length := by
      have := f.length_skip_le text
      simp [h] at this
      omega
    hyphens f (o.addChar '-') rest
  | rest => (o, rest)
termination_by text.length

/-- Reads on behind an opening bracket: the sign of negation, hyphens, and
a closing bracket as an item if it comes first. -/
def opening (f : Flags) (text : List Char) : Reading Opened :=
  let (negated, text) := match f.skip text with
    | '^' :: rest => (true, rest)
    | rest => (false, rest)
  match hyphens f (.start negated) text with
  | (_, []) => .error .unclosedBracket
  | (o, ']' :: rest) => if o.count = 0 then .ok (o.addChar ']', rest) else .ok (o, ']' :: rest)
  | (o, rest) => .ok (o, rest)

/-- Reads a character, or an escape. -/
def item (f : Flags) (text : List Char) : Reading Escape :=
  match text with
  | [] => .error .unclosedBracket
  | '\\' :: rest => Escape.read f rest
  | c :: rest => .ok (.literal c, rest)

/-- What stands behind the hyphen of a range, in so far as it tells whether
there is a range. -/
def behindHyphen (f : Flags) (rest : List Char) : Option Char :=
  if f.verbose then
    match rest.dropWhile Unicode.isWhiteSpace with
    | '#' :: rest => (rest.dropWhile Unicode.isWhiteSpace).head?
    | rest => rest.head?
  else rest.head?

/-- Without Unicode, a bracket holds ASCII characters only. -/
def require (f : Flags) (c : Char) : Except Defect Unit :=
  if f.unicode || c.toNat < 128 then .ok () else .error .unicodeOff

/-- The set of an item that stands alone. -/
def alone (f : Flags) : Escape → Except Defect CharSet
  | .literal c => (require f c).map fun _ => .single c.toNat
  | .chars s => .ok s
  | .look _ => .error .lookInBracket

/-- The set of a range. -/
def between (f : Flags) : Escape → Escape → Except Defect CharSet
  | .literal lo, .literal hi =>
    if hi.toNat < lo.toNat then .error .malformedRange
    else match require f lo, require f hi with
      | .ok _, .ok _ => .ok (.range lo.toNat hi.toNat)
      | _, _ => .error .unicodeOff
  | _, _ => .error .malformedRange

/-- Reads a range or a single item. A hyphen makes a range unless the
bracket or a difference follows it. -/
def range (f : Flags) (text : List Char) : Reading CharSet :=
  match item f text with
  | .error e => .error e
  | .ok (first, rest) =>
    match f.skip rest with
    | [] => .error .unclosedBracket
    | '-' :: behind =>
      if behindHyphen f behind = some ']' ∨ behindHyphen f behind = some '-' then
        (alone f first).map fun s => (s, '-' :: behind)
      else match item f (f.skip behind) with
        | .error e => .error e
        | .ok (last, rest) => (between f first last).map fun s => (s, rest)
    | rest => (alone f first).map fun s => (s, rest)

section Length

variable {f : Flags} {text rest : List Char}

theorem length_asciiName? {s : CharSet} (h : asciiName? text = some (s, rest)) :
    rest.length < text.length := by
  have hd := (List.dropWhile_sublist (· ≠ ':') (l := text)).length_le
  unfold asciiName? at h
  split at h
  · next tail ht =>
    obtain ⟨_, -, heq⟩ := Option.map_eq_some_iff.1 h
    cases heq
    simp only [ht, List.length_cons] at hd
    omega
  · simp at h

theorem length_asciiClass? {negated : Bool} {s : CharSet}
    (h : asciiClass? text = some (negated, s, rest)) : rest.length < text.length := by
  unfold asciiClass? at h
  split at h
  · obtain ⟨_, hn, heq⟩ := Option.map_eq_some_iff.1 h
    cases heq
    exact Nat.lt_succ_of_lt (Nat.lt_succ_of_lt (length_asciiName? hn))
  · obtain ⟨_, hn, heq⟩ := Option.map_eq_some_iff.1 h
    cases heq
    exact Nat.lt_succ_of_lt (length_asciiName? hn)
  · simp at h

theorem length_hyphens_le (f : Flags) (o : Opened) (text : List Char) :
    (hyphens f o text).2.length ≤ text.length := by
  fun_induction hyphens f o text with
  | case1 o text rest hs hl ih => omega
  | case2 o text => exact f.length_skip_le text

theorem length_opening {o : Opened} (h : opening f text = .ok (o, rest)) :
    rest.length ≤ text.length := by
  have hskip := f.length_skip_le text
  unfold opening at h
  split at h
  next negated behind hsign =>
  -- first the sign of negation is passed, and then the hyphens
  have hbehind : behind.length ≤ text.length := by
    split at hsign
    · next tail hs =>
      cases hsign
      simp only [hs, List.length_cons] at hskip
      omega
    · cases hsign
      exact hskip
  have hhyphens := length_hyphens_le f (.start negated) behind
  split at h
  · cases h
  · next hh =>
    simp only [hh, List.length_cons] at hhyphens
    split at h
    · cases h
      omega
    · cases h
      simp only [List.length_cons]
      omega
  · next hh =>
    cases h
    simp only [hh] at hhyphens
    omega

theorem length_item {e : Escape} (h : item f text = .ok (e, rest)) : rest.length < text.length := by
  unfold item at h
  split at h
  · cases h
  · exact Nat.lt_succ_of_lt (Escape.length_read h)
  · cases h
    exact Nat.lt_succ_self _

theorem length_range {s : CharSet} (h : range f text = .ok (s, rest)) :
    rest.length < text.length := by
  unfold range at h
  split at h
  · cases h
  · next first behind hi =>
    have hitem := length_item hi
    have hskip := f.length_skip_le behind
    split at h
    · cases h
    · next tail ht =>
      simp only [ht, List.length_cons] at hskip
      split at h
      · -- no range, so the hyphen is left
        obtain ⟨_, -, heq⟩ := Text.exists_of_map_eq_ok h
        cases heq
        simp only [List.length_cons]
        omega
      · split at h
        · cases h
        · next hl =>
          have hlast := length_item hl
          have hskip' := f.length_skip_le tail
          obtain ⟨_, -, heq⟩ := Text.exists_of_map_eq_ok h
          cases heq
          omega
    · next ht =>
      obtain ⟨_, -, heq⟩ := Text.exists_of_map_eq_ok h
      cases heq
      omega

end Length

/-- Reads on in a bracket, the brackets around it given nearest first. -/
def readFrom (f : Flags) (o : Opened) (outer : List Opened) (text : List Char) : Reading Nested :=
  have skipped := f.length_skip_le text
  match ht : f.skip text with
  | [] => .error .unclosedBracket
  | '[' :: rest =>
    match ha : asciiClass? rest with
    | some (negated, s, rest) =>
      have : rest.length < text.length := by
        have := length_asciiClass? ha
        simp [ht] at skipped
        omega
      match f.negate negated (f.fold s) with
      | .error e => .error e
      | .ok s => readFrom f (o.add ⟨s, 0⟩) outer rest
    | none =>
      match hi : opening f rest with
      | .error e => .error e
      | .ok (inner, rest) =>
        have : rest.length < text.length := by
          have := length_opening hi
          simp [ht] at skipped
          omega
        readFrom f inner (o :: outer) rest
  | ']' :: rest =>
    match o.close f, outer with
    | .error e, _ => .error e
    | .ok n, [] => .ok (n, rest)
    | .ok n, around :: outer =>
      have : rest.length < text.length := by simp [ht] at skipped; omega
      readFrom f (around.add n) outer rest
  | '&' :: '&' :: rest =>
    have : rest.length < text.length := by simp [ht] at skipped; omega
    readFrom f (o.join f .inter) outer rest
  | '-' :: '-' :: rest =>
    have : rest.length < text.length := by simp [ht] at skipped; omega
    readFrom f (o.join f .diff) outer rest
  | '~' :: '~' :: rest =>
    have : rest.length < text.length := by simp [ht] at skipped; omega
    readFrom f (o.join f .symmDiff) outer rest
  | item =>
    match hr : range f item with
    | .error e => .error e
    | .ok (s, rest) =>
      have : rest.length < text.length := by
        have := length_range hr
        simp [ht] at skipped
        omega
      readFrom f (o.add ⟨s, 0⟩) outer rest
termination_by text.length

/-- Reads a bracket, from behind its first character. -/
def read (f : Flags) (text : List Char) : Reading Nested :=
  match opening f text with
  | .error e => .error e
  | .ok (o, rest) => readFrom f o [] rest

/-- What follows in a bracket takes its part of the text, and the closing
bracket at least. -/
theorem length_readFrom {f : Flags} {o : Opened} {outer : List Opened} {text rest : List Char}
    {n : Nested} (h : readFrom f o outer text = .ok (n, rest)) : rest.length ≤ text.length := by
  fun_induction readFrom f o outer text with
  | case1 | case2 | case4 | case6 | case12 => cases h
  | case7 o text skipped tail ht =>
    cases h
    simp only [ht, List.length_cons] at skipped
    omega
  -- the others go on behind what they have read
  | case3 =>
    rename_i hlt _ _ ih
    exact Nat.le_trans (ih h) (Nat.le_of_lt hlt)
  | case5 | case8 | case9 | case10 | case11 | case13 =>
    rename_i hlt ih
    exact Nat.le_trans (ih h) (Nat.le_of_lt hlt)

/-- A bracket leaves a part of the text. -/
theorem length_read {f : Flags} {text rest : List Char} {n : Nested}
    (h : read f text = .ok (n, rest)) : rest.length ≤ text.length := by
  unfold read at h
  split at h
  · cases h
  · next ho => exact Nat.le_trans (length_readFrom h) (length_opening ho)

end Bracket

end Pattern

end RowQuery
