import RowQuery.Unicode.Lowercase
/-!
# Cells

A cell holds text or is absent; there is no other kind of value, so all
comparison is on text. Absent comes before every text in the order, and a
pattern that is absent occurs in an absent cell only.
-/

namespace RowQuery

namespace Text

/-- The order of two texts by their first differing character, a text
before its continuations. -/
def order : List Char → List Char → Ordering
  | [], [] => .eq
  | [], _ :: _ => .lt
  | _ :: _, [] => .gt
  | a :: as, b :: bs =>
    if a.toNat < b.toNat then .lt else if b.toNat < a.toNat then .gt else order as bs

/-- Whether a text occurs within another one. -/
def occurs (pattern : List Char) : List Char → Bool
  | [] => pattern.isEmpty
  | c :: rest => pattern.isPrefixOf (c :: rest) || occurs pattern rest

/-- Occurring is being an infix. -/
theorem occurs_iff {pattern text : List Char} : occurs pattern text = true ↔ pattern <:+: text := by
  induction text with
  | nil => simp [occurs]
  | cons c rest ih => simp [occurs, ih, List.infix_cons_iff]

end Text

/-- A cell of a row, or the name of a column: text, or absent. -/
abbrev Cell := Option String

namespace Cell

/-- The order of cells: absent first, then by text. -/
def order : Cell → Cell → Ordering
  | none, none => .eq
  | none, some _ => .lt
  | some _, none => .gt
  | some a, some b => Text.order a.toList b.toList

/-- The cell in lower case. -/
def lower (c : Cell) : Cell :=
  c.map Unicode.lowercase

/-- Whether a pattern occurs in a value. An absent pattern occurs in an
absent value only, and nothing present does. -/
def occurs : (pattern value : Cell) → Bool
  | none, none => true
  | some p, some v => Text.occurs p.toList v.toList
  | _, _ => false

/-- Whether a pattern occurs in a value when case is ignored. -/
def occursIgnoringCase (pattern value : Cell) : Bool :=
  occurs pattern.lower value.lower

end Cell

end RowQuery
