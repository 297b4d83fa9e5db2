/-!
# Reading from a text

The common shape of functions that read from the start of a text, and the
hexadecimal digits that several of them read.
-/

namespace RowQuery

namespace Text

/-- The result of reading from the start of a text: what was read and what
is left, or why nothing was. -/
abbrev Reading (ε α : Type) := Except ε (α × List Char)

/-- A mapped result comes from a result. -/
theorem exists_of_map_eq_ok {ε α β : Type} {g : α → β} {x : Except ε α} {b : β}
    (h : x.map g = .ok b) : ∃ a, x = .ok a ∧ g a = b := by
  cases x <;> simp_all [Except.map]

/-- A mapped result fails as the result does. -/
theorem map_eq_error_iff {ε α β : Type} {g : α → β} {x : Except ε α} {e : ε} :
    x.map g = .error e ↔ x = .error e := by
  cases x <;> simp [Except.map]

/-- The value of a hexadecimal digit. -/
def hexDigit? (c : Char) : Option Nat :=
  if c.isDigit then some (c.toNat - '0'.toNat)
  else if 'a' ≤ c ∧ c ≤ 'f' then some (c.toNat - 'a'.toNat + 10)
  else if 'A' ≤ c ∧ c ≤ 'F' then some (c.toNat - 'A'.toNat + 10)
  else none

end Text

end RowQuery
