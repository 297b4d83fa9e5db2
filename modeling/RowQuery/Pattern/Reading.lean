import RowQuery.Pattern.Bracket
import RowQuery.Pattern.Group
/-!
# Reading patterns

From the text of a pattern to its expression. Like the reading of queries
this is one loop with a stack: a `Scope` is what was read since the last
open parenthesis, and every round of the loop takes one item of the pattern.
Each part carries how deep its spelling is nested: a group, a repetition, a
bracket, two or more items in a row and two or more alternatives are a level
each.
-/

namespace RowQuery

namespace Pattern

/-- An expression with the depth of its spelling. -/
structure Part where
  /-- The expression. -/
  regex : Regex Atom
  /-- How deep the spelling is nested. -/
  depth : Nat

/-- What stands in a row in a pattern. -/
inductive Item
  /-- A part of the expression. -/
  | part (p : Part)
  /-- Flags for what follows. -/
  | directive

namespace Item

/-- The depth of an item. -/
def depth : Item → Nat
  | part p => p.depth
  | directive => 0

/-- The expression of items in a row. -/
def regex : List Item → Regex Atom
  | [] => .empty
  | [part p] => p.regex
  | part p :: rest => .cat p.regex (regex rest)
  | directive :: rest => regex rest

/-- Items in a row as one part. -/
def row (items : List Item) : Part :=
  match items with
  | [] => ⟨.empty, 0⟩
  | [item] => ⟨regex [item], item.depth⟩
  | items => ⟨regex items, (items.map depth).foldr max 0 + 1⟩

end Item

namespace Part

/-- The expression of alternatives, of which the first is apart. -/
def choice (first : Regex Atom) : List Part → Regex Atom
  | [] => first
  | p :: rest => .alt first (choice p.regex rest)

/-- Alternatives as one part. -/
def either : List Part → Part
  | [] => ⟨.empty, 0⟩
  | [p] => p
  | p :: rest => ⟨choice p.regex rest, ((p :: rest).map depth).foldr max 0 + 1⟩

end Part

/-- What was read of the alternatives in one pair of parentheses. -/
structure Scope where
  /-- The alternatives before the last stroke, last one first. -/
  alternatives : List Part
  /-- The items since then, last one first. -/
  items : List Item

namespace Scope

/-- Nothing read yet. -/
def start : Scope := ⟨[], []⟩

/-- Adds an item. -/
def add (s : Scope) (item : Item) : Scope :=
  { s with items := item :: s.items }

/-- Starts a new alternative. -/
def next (s : Scope) : Scope :=
  ⟨Item.row s.items.reverse :: s.alternatives, []⟩

/-- All that was read. -/
def part (s : Scope) : Part :=
  Part.either s.next.alternatives.reverse

end Scope

/-- A group that is not closed yet: what was read before it, the flags that
hold again behind it, and whether it is numbered. -/
structure Enclosing where
  /-- What was read before the group. -/
  scope : Scope
  /-- The flags that held before it. -/
  flags : Flags
  /-- Whether the group is numbered. -/
  numbered : Bool

/-- How far the reading of a pattern has come. -/
structure Progress where
  /-- What was read since the last open parenthesis. -/
  scope : Scope
  /-- The flags that hold. -/
  flags : Flags
  /-- The groups around, nearest first. -/
  outer : List Enclosing
  /-- The names of groups so far. -/
  names : List String

namespace Progress

/-- Nothing read yet. -/
def start : Progress := ⟨.start, .initial, [], []⟩

/-- Adds an item. -/
def add (p : Progress) (item : Item) : Progress :=
  { p with scope := p.scope.add item }

/-- Adds an expression that is not nested. -/
def addAtom (p : Progress) (a : Atom) : Progress :=
  p.add (.part ⟨.atom a, 0⟩)

/-- Adds a character, with its other cases where case is ignored. -/
def addChar (p : Progress) (c : Char) : Progress :=
  p.addAtom (.chars (p.flags.fold (.single c.toNat)))

/-- Puts a repetition in the place of the last item. -/
def repeatLast (p : Progress) (min : Nat) (max : Option Nat) : Except Defect Progress :=
  match p.scope.items with
  | .part q :: items =>
    .ok { p with
      scope := ⟨p.scope.alternatives, .part ⟨.repeated q.regex min max, q.depth + 1⟩ :: items⟩ }
  | _ => .error .nothingToRepeat

/-- Takes the head of a group. -/
def openGroup (p : Progress) : GroupHead → Except Defect Progress
  | .directive f => .ok { p.add .directive with flags := f }
  | .numbered => .ok ⟨.start, p.flags, ⟨p.scope, p.flags, true⟩ :: p.outer, p.names⟩
  | .named name =>
    if name ∈ p.names then .error (.repeatedName name)
    else .ok ⟨.start, p.flags, ⟨p.scope, p.flags, true⟩ :: p.outer, name :: p.names⟩
  | .flagged f => .ok ⟨.start, f, ⟨p.scope, p.flags, false⟩ :: p.outer, p.names⟩

/-- Closes the last group. -/
def closeGroup (p : Progress) : Except Defect Progress :=
  match p.outer with
  | [] => .error .unopenedGroup
  | around :: outer =>
    let inner := p.scope.part
    let regex := if around.numbered then .captured inner.regex else inner.regex
    .ok ⟨around.scope.add (.part ⟨regex, inner.depth + 1⟩), around.flags, outer, p.names⟩

/-- The part that was read, when the pattern ends. -/
def finish (p : Progress) : Except Defect Part :=
  if p.outer.isEmpty then .ok p.scope.part else .error .unclosedGroup

end Progress

/-- The set of the characters that a dot matches. -/
def dot (f : Flags) : Except Defect CharSet :=
  if !f.unicode then .error .unicodeOff
  else if f.dotAll then .ok .all
  else if f.crlf then .ok (CharSet.compl ⟨[(0xA, 0xA), (0xD, 0xD)]⟩)
  else .ok (CharSet.compl (.single 0xA))

/-- The condition of a circumflex. -/
def circumflex (f : Flags) : Look :=
  if f.multiLine then .lineStart f.crlf else .textStart

/-- The condition of a dollar sign. -/
def dollar (f : Flags) : Look :=
  if f.multiLine then .lineEnd f.crlf else .textEnd

/-- Passes over the mark of a lazy repetition. -/
def skipLazy (text : List Char) : List Char :=
  match text with
  | '?' :: rest => rest
  | rest => rest

/-- The bound of repetition counts, 2 to the power of 32. -/
def countBound : Nat := 4294967296

/-- Reads decimal digits, which other things may part in verbose mode. -/
def countDigits (f : Flags) (text : List Char) : List Char × List Char :=
  match text with
  | [] => ([], [])
  | c :: rest =>
    if c.isDigit then
      let (digits, rest) := countDigits f (f.skip rest)
      (c :: digits, rest)
    else ([], c :: rest)
termination_by text.length
decreasing_by exact Nat.lt_succ_of_le (f.length_skip_le rest)

/-- Passes over white space, and in verbose mode over comments behind it. -/
def skipSpace (f : Flags) (text : List Char) : List Char :=
  match text with
  | [] => []
  | c :: rest =>
    if Unicode.isWhiteSpace c then
      skipSpace f (f.skip rest)
    else c :: rest
termination_by text.length
decreasing_by exact Nat.lt_succ_of_le (f.length_skip_le rest)

/-- Reads a repetition count between white space: a number below the bound,
or `none` when there are no digits. -/
def count (f : Flags) (text : List Char) : Reading (Option Nat) :=
  let (digits, rest) := countDigits f (text.dropWhile Unicode.isWhiteSpace)
  let n := Text.numeral digits
  if digits.isEmpty then .ok (none, skipSpace f rest)
  else if n < countBound then .ok (some n, skipSpace f rest)
  else .error .malformedCount

/-- Reads the counts of a repetition, from behind the opening brace. -/
def counts (f : Flags) (text : List Char) : Reading (Nat × Option Nat) :=
  match count f (f.skip text) with
  | .ok (some least, '\x7d' :: rest) => .ok ((least, some least), skipLazy (f.skip rest))
  | .ok (some least, ',' :: rest) =>
    match f.skip rest with
    | '\x7d' :: rest => .ok ((least, none), skipLazy (f.skip rest))
    | rest =>
      match count f rest with
      | .ok (some most, '\x7d' :: rest) =>
        if least ≤ most then .ok ((least, some most), skipLazy (f.skip rest))
        else .error .reversedCount
      | .error e => .error e
      | _ => .error .malformedCount
  | .error e => .error e
  | _ => .error .malformedCount

/-- Takes one item of a pattern, of which `c` is the first character. -/
def Progress.step (p : Progress) (c : Char) (rest : List Char) : Reading Progress :=
  match c with
  | '(' =>
    match GroupHead.read p.flags rest with
    | .error e => .error e
    | .ok (head, rest) => (p.openGroup head).map (·, rest)
  | ')' => p.closeGroup.map (·, rest)
  | '|' => .ok ({ p with scope := p.scope.next }, rest)
  | '[' =>
    match Bracket.read p.flags rest with
    | .error e => .error e
    | .ok (n, rest) => .ok (p.add (.part ⟨.atom (.chars n.set), n.depth⟩), rest)
  | '?' => (p.repeatLast 0 (some 1)).map (·, skipLazy rest)
  | '*' => (p.repeatLast 0 none).map (·, skipLazy rest)
  | '+' => (p.repeatLast 1 none).map (·, skipLazy rest)
  | '\x7b' =>
    match counts p.flags rest with
    | .error e => .error e
    | .ok ((least, most), rest) => (p.repeatLast least most).map (·, rest)
  | '\\' =>
    match Escape.read p.flags rest with
    | .error e => .error e
    | .ok (.literal c, rest) => .ok (p.addChar c, rest)
    | .ok (.chars s, rest) => .ok (p.addAtom (.chars s), rest)
    | .ok (.look l, rest) => .ok (p.addAtom (.look l), rest)
  | '.' => (dot p.flags).map fun s => (p.addAtom (.chars s), rest)
  | '^' => .ok (p.addAtom (.look (circumflex p.flags)), rest)
  | '$' => .ok (p.addAtom (.look (dollar p.flags)), rest)
  | c => .ok (p.addChar c, rest)

section Length

variable {f : Flags} {text rest : List Char}

theorem length_skipLazy_le (text : List Char) : (skipLazy text).length ≤ text.length := by
  unfold skipLazy
  split
  · exact Nat.le_succ _
  · exact Nat.le_refl _

theorem length_countDigits_le (f : Flags) (text : List Char) :
    (countDigits f text).2.length ≤ text.length := by
  fun_induction countDigits f text with
  | case1 => simp
  | case2 c rest hc digits tail hd ih =>
    have := f.length_skip_le rest
    simp_all
    omega
  | case3 => simp

theorem length_skipSpace_le (f : Flags) (text : List Char) :
    (skipSpace f text).length ≤ text.length := by
  fun_induction skipSpace f text with
  | case1 => simp
  | case2 c rest hc ih =>
    have := f.length_skip_le rest
    simp only [List.length_cons]
    omega
  | case3 => simp

theorem length_count {n : Option Nat} (h : count f text = .ok (n, rest)) :
    rest.length ≤ text.length := by
  have h1 := (List.dropWhile_sublist Unicode.isWhiteSpace (l := text)).length_le
  have h2 := length_countDigits_le f (text.dropWhile Unicode.isWhiteSpace)
  have h3 := length_skipSpace_le f (countDigits f (text.dropWhile Unicode.isWhiteSpace)).2
  unfold count at h
  split at h
  next digits behind hd =>
  simp only [hd] at h2 h3
  split at h
  · cases h
    omega
  · dsimp only at h
    split at h <;> cases h
    omega

theorem length_counts {n : Nat × Option Nat} (h : counts f text = .ok (n, rest)) :
    rest.length ≤ text.length := by
  -- what is left when the closing brace was taken
  have hclosed (tail : List Char) : (skipLazy (f.skip tail)).length ≤ tail.length :=
    Nat.le_trans (length_skipLazy_le _) (f.length_skip_le tail)
  have hskip := f.length_skip_le text
  unfold counts at h
  split at h
  · next least tail hc =>
    have hcount := length_count hc
    have hleft := hclosed tail
    cases h
    simp only [List.length_cons] at hcount
    omega
  · next least tail hc =>
    have hcount := length_count hc
    have hskip' := f.length_skip_le tail
    simp only [List.length_cons] at hcount
    split at h
    · next tail' hs =>
      have hleft := hclosed tail'
      cases h
      simp only [hs, List.length_cons] at hskip'
      omega
    · split at h
      · next most tail' hc' =>
        have hcount' := length_count hc'
        have hleft := hclosed tail'
        simp only [List.length_cons] at hcount'
        split at h <;> cases h
        omega
      · cases h
      · cases h
  · cases h
  · cases h

/-- An item takes at least its first character. -/
theorem length_step {p q : Progress} {c : Char} (h : p.step c text = .ok (q, rest)) :
    rest.length ≤ text.length := by
  have hlazy := length_skipLazy_le text
  have hmap {x : Except Defect Progress} {left : List Char}
      (hx : x.map (·, left) = .ok (q, rest)) (hle : left.length ≤ text.length) :
      rest.length ≤ text.length := by
    obtain ⟨q', -, heq⟩ := Text.exists_of_map_eq_ok hx
    cases heq
    exact hle
  unfold Progress.step at h
  split at h
  case h_1 =>
    split at h
    · cases h
    · next hg => exact hmap h (GroupHead.length_read hg)
  case h_2 => exact hmap h (Nat.le_refl _)
  case h_4 =>
    split at h
    · cases h
    · next hb =>
      cases h
      exact Bracket.length_read hb
  case h_5 | h_6 | h_7 => exact hmap h hlazy
  case h_8 =>
    split at h
    · cases h
    · next hc => exact hmap h (length_counts hc)
  case h_9 =>
    split at h
    · cases h
    all_goals
      next he =>
      cases h
      exact Nat.le_of_lt (Escape.length_read he)
  case h_10 =>
    obtain ⟨s, -, heq⟩ := Text.exists_of_map_eq_ok h
    cases heq
    exact Nat.le_refl _
  case h_3 | h_11 | h_12 | h_13 =>
    cases h
    exact Nat.le_refl _

end Length

/-- Reads on to the end of the pattern. -/
def Progress.run (p : Progress) (text : List Char) : Except Defect Part :=
  match ht : p.flags.skip text with
  | [] => p.finish
  | c :: rest =>
    match hs : p.step c rest with
    | .error e => .error e
    | .ok (q, after) =>
      have : after.length < text.length := by
        have h1 := p.flags.length_skip_le text
        have h2 := length_step hs
        simp [ht] at h1
        omega
      q.run after
termination_by text.length

end Pattern

end RowQuery
