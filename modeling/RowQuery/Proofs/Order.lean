import RowQuery.Cell
import Mathlib.Data.List.Lex
/-!
# The order of cells

`Text.order` and `Cell.order` compute the orders that lists and options
carry anyway: texts by their first differing character, and absent below
all of them. The three results of a comparison are thereby `<`, `=` and
`>`, which is what the operators of a query are read at.
-/

namespace RowQuery

namespace Text

/-- Swapping two texts swaps the result. -/
theorem order_swap (a b : List Char) : (order a b).swap = order b a := by
  induction a generalizing b with
  | nil => cases b <;> rfl
  | cons c as ih =>
    rcases b with - | ⟨d, bs⟩
    · rfl
    · rw [order, order]
      rcases lt_trichotomy c.toNat d.toNat with hlt | heq | hgt
      · simp [hlt, hlt.not_gt]
      · simp [heq, ih]
      · simp [hgt, hgt.not_gt]

/-- **A text is before another in the order of lists.** -/
theorem order_eq_lt {a b : List Char} : order a b = .lt ↔ a < b := by
  induction a generalizing b with
  | nil => cases b <;> simp [order]
  | cons c as ih =>
    rcases b with - | ⟨d, bs⟩
    · simp [order]
    · have hcd : c < d ↔ c.toNat < d.toNat := Iff.rfl
      rw [order, List.cons_lt_cons_iff, hcd]
      rcases lt_trichotomy c.toNat d.toNat with hlt | heq | hgt
      · simp [hlt]
      · obtain rfl : c = d := Char.toNat_inj.1 heq
        simp [ih]
      · have hne : c ≠ d := fun h => by simp [h] at hgt
        simp [hgt, hgt.not_gt, hne]

/-- And behind it in the same order. -/
theorem order_eq_gt {a b : List Char} : order a b = .gt ↔ b < a := by
  rw [← order_eq_lt, ← order_swap a b]
  cases order a b <;> simp [Ordering.swap]

/-- Only equal texts are neither. -/
theorem order_eq_eq {a b : List Char} : order a b = .eq ↔ a = b := by
  induction a generalizing b with
  | nil => cases b <;> simp [order]
  | cons c as ih =>
    rcases b with - | ⟨d, bs⟩
    · simp [order]
    · rw [order, List.cons.injEq, ← Char.toNat_inj]
      rcases lt_trichotomy c.toNat d.toNat with hlt | heq | hgt
      · simp [hlt, hlt.ne]
      · simp [heq, ih]
      · simp [hgt, hgt.not_gt, hgt.ne']

end Text

namespace Cell

variable {c d : Cell}

/-- Absent is before every text, and texts are as they are. -/
theorem order_eq_lt : c.order d = .lt ↔ c < d := by
  rcases c with - | a <;> rcases d with - | b
  · simp [order]
  · simp [order]
  · simp [order]
  · rw [Option.some_lt_some]
    exact Text.order_eq_lt

/-- The same from the other side. -/
theorem order_eq_gt : c.order d = .gt ↔ d < c := by
  rcases c with - | a <;> rcases d with - | b
  · simp [order]
  · simp [order]
  · simp [order]
  · rw [Option.some_lt_some]
    exact Text.order_eq_gt

/-- Equal are an absent cell and itself, and equal texts. -/
theorem order_eq_eq : c.order d = .eq ↔ c = d := by
  rcases c with - | a <;> rcases d with - | b <;>
    simp [order, Text.order_eq_eq, String.toList_inj]

/-! The four tests of a result, as the operators use them. -/

/-- Before. -/
@[simp] theorem isLT_order : (c.order d).isLT = true ↔ c < d := by
  rw [Ordering.isLT_iff_eq_lt, order_eq_lt]

/-- Behind. -/
@[simp] theorem isGT_order : (c.order d).isGT = true ↔ d < c := by
  rw [Ordering.isGT_iff_eq_gt, order_eq_gt]

/-- Not behind. -/
@[simp] theorem isLE_order : (c.order d).isLE = true ↔ c < d ∨ c = d := by
  rw [← order_eq_lt, ← order_eq_eq]
  cases c.order d <;> simp

/-- Not before. -/
@[simp] theorem isGE_order : (c.order d).isGE = true ↔ d < c ∨ c = d := by
  rw [← order_eq_gt, ← order_eq_eq]
  cases c.order d <;> simp

end Cell

end RowQuery
