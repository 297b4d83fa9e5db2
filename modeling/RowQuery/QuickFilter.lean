import RowQuery.Sheet
/-!
# Quick filters

Filters that are picked from a cell and not written as a query: at most one
per column, all of which a row has to pass. Setting a filter replaces the
one its column had.
-/

namespace RowQuery

/-- How a quick filter compares its pattern with a cell. -/
inductive QuickTest
  /-- The cell is the pattern. -/
  | equals
  /-- The pattern occurs in the cell. -/
  | contains
  /-- The cell is something else. -/
  | differs
deriving DecidableEq

/-- Whether a value passes the test by a pattern. -/
def QuickTest.passes (t : QuickTest) (pattern value : Cell) : Bool :=
  match t with
  | equals => pattern = value
  | contains => pattern.occurs value
  | differs => pattern ≠ value

/-- A filter on one column. -/
structure QuickFilter where
  /-- How cells are tested. -/
  test : QuickTest
  /-- What they are tested against. -/
  pattern : Cell
deriving DecidableEq

/-- The quick filters of a sheet, each with the index of its column. -/
structure QuickFilters where
  /-- The filters, one for a column at most. -/
  entries : List (Nat × QuickFilter)

namespace QuickFilters

/-- No filters. -/
def none : QuickFilters := ⟨[]⟩

/-- The filter of a column. -/
def get? (fs : QuickFilters) (column : Nat) : Option QuickFilter :=
  fs.entries.lookup column

/-- Drops the filter of a column. -/
def remove (fs : QuickFilters) (column : Nat) : QuickFilters :=
  ⟨fs.entries.filter fun e => e.1 ≠ column⟩

/-- Takes away the filter of a column: the one it had, and the filters that
are left. -/
def take (fs : QuickFilters) (column : Nat) : Option QuickFilter × QuickFilters :=
  let (taken, left) := fs.entries.partition fun e => e.1 = column
  (taken.head?.map (·.2), ⟨left⟩)

/-- Sets the filter of a column. -/
def set (fs : QuickFilters) (column : Nat) (f : QuickFilter) : QuickFilters :=
  ⟨(column, f) :: (fs.remove column).entries⟩

/-- Whether no column has a filter. -/
def isEmpty (fs : QuickFilters) : Bool :=
  fs.entries.isEmpty

/-- Whether a row passes every filter. -/
def selects (fs : QuickFilters) (r : Row) : Bool :=
  fs.entries.all fun (column, f) => f.test.passes f.pattern (r.cell column)

/-- The rows that pass every filter, each with its index among the given
rows. -/
def selected (fs : QuickFilters) (rows : List Row) : List (Row × Nat) :=
  rows.zipIdx.filter fun (r, _) => fs.selects r

/-- The rows that pass every filter, in their order. -/
def apply (fs : QuickFilters) (rows : List Row) : List Row :=
  (fs.selected rows).map (·.1)

variable (fs : QuickFilters) (f : QuickFilter) (column other : Nat)

theorem get?_remove :
    (fs.remove column).get? other = if other = column then Option.none else fs.get? other := by
  obtain ⟨entries⟩ := fs
  simp only [remove, get?] at *
  induction entries with
  | nil => simp
  | cons e entries ih =>
    obtain ⟨c, g⟩ := e
    by_cases hc : c = column
    · -- the entry is dropped, and it is found for its own column only
      subst hc
      rw [List.filter_cons_of_neg (by simp), ih]
      split
      · rfl
      · next hne => rw [List.lookup_cons, beq_false_of_ne hne]
    · rw [List.filter_cons_of_pos (by simpa using hc), List.lookup_cons, List.lookup_cons, ih]
      by_cases ho : other = c
      · subst ho
        simp [hc]
      · simp [beq_false_of_ne ho]

theorem get?_set :
    (fs.set column f).get? other = if other = column then some f else fs.get? other := by
  have hremove := fs.get?_remove column other
  rw [get?] at hremove
  rw [set, get?, List.lookup_cons, hremove]
  by_cases ho : other = column
  · simp [ho]
  · simp [ho, beq_false_of_ne ho]

theorem get?_eq_find? :
    fs.get? column = (fs.entries.find? fun e => e.1 = column).map (·.2) := by
  obtain ⟨entries⟩ := fs
  simp only [get?]
  induction entries with
  | nil => rfl
  | cons e entries ih =>
    rw [List.lookup_cons, List.find?_cons, ih]
    by_cases he : e.1 = column
    · simp [he]
    · simp [he, beq_false_of_ne (Ne.symm he)]

/-- **What is taken away is the filter that the column had**, and no other. -/
theorem take_eq : fs.take column = (fs.get? column, fs.remove column) := by
  rw [take, List.partition_eq_filter_filter, get?_eq_find?, ← List.head?_filter, remove]
  simp [Function.comp_def]

end QuickFilters

end RowQuery
