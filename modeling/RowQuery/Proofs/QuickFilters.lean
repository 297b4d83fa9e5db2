import Mathlib
import RowQuery.QuickFilter
import RowQuery.Proofs.Comparison
import RowQuery.Proofs.Stages
/-!
# Quick filters after any changes

Quick filters are set, taken away and cleared one by one, in any order. What
a change does to the filter of a column is told by the change alone, if it
concerns the column, and is nothing otherwise (`QuickFilters.get?_apply`). So
after any changes a column has the filter that was set on it last, unless
that was taken away or cleared since (`QuickFilters.get?_after`). No change
gives a column two filters (`QuickFilters.distinct_after`), whence the rows
that pass are those that the filters of the columns accept, and how the
filters came there does not matter (`QuickFilters.after_faithful`).
-/

namespace RowQuery

/-- **What a quick filter asks**: what it takes of a pattern and a value,
either of which may be absent. -/
def QuickTest.Accepts (t : QuickTest) (pattern value : Cell) : Prop :=
  match t with
  | equals => pattern = value
  | contains => pattern.Within value
  | differs => pattern ≠ value

/-- `passes` computes it. -/
theorem QuickTest.passes_iff {t : QuickTest} {pattern value : Cell} :
    t.passes pattern value = true ↔ t.Accepts pattern value := by
  cases t with
  | equals => simp [passes, Accepts]
  | contains => exact Cell.occurs_eq_true
  | differs => simp [passes, Accepts]

namespace QuickFilters

/-! ## Changes -/

/-- A change of the quick filters. -/
inductive Change
  /-- The filter of a column is set. -/
  | set (column : ℕ) (f : QuickFilter)
  /-- It is taken away. -/
  | remove (column : ℕ)
  /-- All filters are dropped. -/
  | clear

namespace Change

/-- The filters after a change. -/
def apply (fs : QuickFilters) : Change → QuickFilters
  | set column f => fs.set column f
  | remove column => (fs.take column).2
  | clear => .none

/-- Whether a change decides about the filter of a column. -/
def Concerns (x : Change) (column : ℕ) : Prop :=
  match x with
  | set c _ | remove c => c = column
  | clear => True

/-- The filter that a change leaves to a column that it concerns. -/
def leaves : Change → Option QuickFilter
  | set _ f => some f
  | remove _ | clear => Option.none

end Change

/-- The filters after changes in a row, of which there were none before. -/
def after (changes : List Change) : QuickFilters :=
  changes.foldl Change.apply .none

/-- **The filter in force on a column** after changes: it was set, and no
change since has concerned the column. -/
def InForce (changes : List Change) (column : ℕ) (f : QuickFilter) : Prop :=
  ∃ before later, changes = before ++ .set column f :: later ∧
    ∀ x ∈ later, ¬ x.Concerns column

variable {fs : QuickFilters} {changes : List Change} {x : Change} {column : ℕ}
variable {f : QuickFilter}

/-! ## The filter of a column -/

/-- **What a change does to a column it concerns** is told by the change. -/
theorem get?_apply (h : x.Concerns column) : (x.apply fs).get? column = x.leaves := by
  cases x with
  | set c f =>
    obtain rfl : c = column := h
    rw [Change.apply, get?_set, if_pos rfl, Change.leaves]
  | remove c =>
    obtain rfl : c = column := h
    rw [Change.apply, take_eq, get?_remove, if_pos rfl, Change.leaves]
  | clear => rfl

/-- Other columns keep their filters. -/
theorem get?_apply_of_not (h : ¬ x.Concerns column) :
    (x.apply fs).get? column = fs.get? column := by
  cases x with
  | set c f => rw [Change.apply, get?_set, if_neg (Ne.symm h)]
  | remove c => rw [Change.apply, take_eq, get?_remove, if_neg (Ne.symm h)]
  | clear => exact absurd trivial h

theorem leaves_eq_some_iff (h : x.Concerns column) : x.leaves = some f ↔ x = .set column f := by
  cases x with
  | set c g =>
    obtain rfl : c = column := h
    simp [Change.leaves]
  | remove c => simp [Change.leaves]
  | clear => simp [Change.leaves]

theorem after_append (changes : List Change) (x : Change) :
    after (changes ++ [x]) = x.apply (after changes) := by
  rw [after, List.foldl_append]
  rfl

/-- **What a change puts in force**: its own filter, and that of earlier
changes if it does not concern the column. -/
theorem inForce_append_iff :
    InForce (changes ++ [x]) column f ↔
      x = .set column f ∨ ¬ x.Concerns column ∧ InForce changes column f := by
  constructor
  · rintro ⟨before, later, heq, hlater⟩
    -- the filter was set by the change, or before it
    rcases List.eq_nil_or_concat later with rfl | ⟨later, y, rfl⟩
    · exact .inl (List.singleton_inj.1 (List.append_inj' heq rfl).2)
    · have hsplit : changes ++ [x] = (before ++ .set column f :: later) ++ [y] := by
        simpa using heq
      obtain ⟨rfl, hy⟩ := List.append_inj' hsplit rfl
      obtain rfl := List.singleton_inj.1 hy
      exact .inr ⟨hlater x (by simp), before, later, rfl, fun z hz => hlater z (by simp [hz])⟩
  · rintro (rfl | ⟨hx, before, later, rfl, hlater⟩)
    · exact ⟨changes, [], rfl, nofun⟩
    · refine ⟨before, later ++ [x], by simp, ?_⟩
      rw [List.forall_mem_append, List.forall_mem_singleton]
      exact ⟨hlater, hx⟩

/-- **A column has the filter that is in force on it.** The induction is on
the changes, last one last. -/
theorem get?_after : (after changes).get? column = some f ↔ InForce changes column f := by
  induction changes using List.reverseRecOn with
  | nil =>
    refine ⟨nofun, ?_⟩
    rintro ⟨before, later, heq, -⟩
    simp at heq
  | append_singleton changes x ih =>
    rw [after_append, inForce_append_iff]
    by_cases hx : x.Concerns column
    · rw [get?_apply hx, leaves_eq_some_iff hx]
      simp [hx]
    · have hne : x ≠ .set column f := by
        rintro rfl
        exact hx rfl
      rw [get?_apply_of_not hx, ih]
      simp [hx, hne]

/-! ## One filter for a column -/

/-- **No column has two filters.** -/
def Distinct (fs : QuickFilters) : Prop :=
  (fs.entries.map Prod.fst).Nodup

/-- Filters that are left were there before. -/
theorem Distinct.remove (h : fs.Distinct) (column : ℕ) : (fs.remove column).Distinct :=
  h.sublist (List.filter_sublist.map Prod.fst)

/-- **No change gives a column two filters.** -/
theorem Distinct.apply (h : fs.Distinct) (x : Change) : (x.apply fs).Distinct := by
  cases x with
  | set column f =>
    refine List.nodup_cons.2 ⟨?_, h.remove column⟩
    simp [QuickFilters.remove]
  | remove column =>
    rw [Change.apply, take_eq]
    exact h.remove column
  | clear => exact List.nodup_nil

/-- So none has two after any changes. -/
theorem distinct_after (changes : List Change) : (after changes).Distinct := by
  induction changes using List.reverseRecOn with
  | nil => exact List.nodup_nil
  | append_singleton changes x ih =>
    rw [after_append]
    exact ih.apply x

/-- The filters that are kept are those of the columns. -/
theorem Distinct.mem_entries_iff (h : fs.Distinct) :
    (column, f) ∈ fs.entries ↔ fs.get? column = some f := by
  rw [get?, List.lookup_eq_some_iff]
  constructor
  · intro hmem
    obtain ⟨before, later, heq⟩ := List.append_of_mem hmem
    refine ⟨before, later, heq, fun e he => ?_⟩
    rw [Distinct, heq, List.map_append, List.map_cons] at h
    have hnew := List.disjoint_of_nodup_append h (List.mem_map_of_mem he)
    have hne : column ≠ e.1 := fun hcolumn => hnew (hcolumn ▸ List.mem_cons_self)
    simpa using hne
  · rintro ⟨before, later, heq, -⟩
    simp [heq]

/-! ## What the filters select -/

/-- There are no filters if no column has one. -/
theorem isEmpty_iff : fs.isEmpty = true ↔ ∀ column, fs.get? column = Option.none := by
  obtain ⟨entries⟩ := fs
  rw [isEmpty, List.isEmpty_iff]
  refine ⟨?_, fun h => ?_⟩
  · rintro rfl _
    rfl
  · rcases entries with - | ⟨⟨c, f⟩, entries⟩
    · rfl
    · exact absurd (h c) (by simp [get?])

/-- **A row passes if the filter of every column accepts its cell.** -/
theorem Distinct.selects_iff (h : fs.Distinct) (row : Row) :
    fs.selects row = true ↔
      ∀ column f, fs.get? column = some f → f.test.Accepts f.pattern (row.cell column) := by
  rw [selects, List.all_eq_true]
  constructor
  · intro hall column f hf
    exact QuickTest.passes_iff.1 (hall (column, f) (h.mem_entries_iff.2 hf))
  · rintro hall ⟨column, f⟩ hmem
    exact QuickTest.passes_iff.2 (hall column f (h.mem_entries_iff.1 hmem))

/-- The rows that pass are filtered out of the others. -/
theorem apply_eq_filter (fs : QuickFilters) (rows : List Row) :
    fs.apply rows = rows.filter fs.selects :=
  Row.map_fst_filter_zipIdx fs.selects rows

/-- **Quick filters are as they were set last.** After any changes a column
has the filter that was set on it, if nothing since has set another one, taken
it away or dropped all of them, and otherwise none. What is taken away is the
filter that the column had, and the other columns keep theirs. There are no
filters exactly if no column has one. A row passes exactly if the filter of
every column accepts the cell of the row there, and the rows that pass are
kept in their order. So after other changes by which the same filters are in
force, the same rows pass. -/
theorem after_faithful (changes : List Change) :
    (∀ column f, (after changes).get? column = some f ↔ InForce changes column f) ∧
    (∀ column, ((after changes).take column).1 = (after changes).get? column ∧
      ((after changes).take column).2.get? column = Option.none ∧
      ∀ other, other ≠ column →
        ((after changes).take column).2.get? other = (after changes).get? other) ∧
    ((after changes).isEmpty = true ↔ ∀ column, (after changes).get? column = Option.none) ∧
    (∀ row, (after changes).selects row = true ↔ ∀ column f,
      (after changes).get? column = some f → f.test.Accepts f.pattern (row.cell column)) ∧
    (∀ rows, (after changes).apply rows = rows.filter (after changes).selects) ∧
    ∀ changes', (∀ column f, InForce changes column f ↔ InForce changes' column f) →
      (after changes).selects = (after changes').selects ∧
      (after changes).apply = (after changes').apply := by
  have hdistinct := distinct_after changes
  refine ⟨fun _ _ => get?_after, fun column => ?_, isEmpty_iff, hdistinct.selects_iff,
    (after changes).apply_eq_filter, fun changes' hsame => ?_⟩
  · rw [take_eq]
    refine ⟨rfl, ?_, fun other hother => ?_⟩
    · rw [get?_remove, if_pos rfl]
    · rw [get?_remove, if_neg hother]
  · have hselects : (after changes).selects = (after changes').selects := by
      funext row
      rw [Bool.eq_iff_iff, hdistinct.selects_iff, (distinct_after changes').selects_iff]
      simp only [get?_after, hsame]
    refine ⟨hselects, funext fun rows => ?_⟩
    rw [apply_eq_filter, apply_eq_filter, hselects]

end QuickFilters

/-- A filter is set again, and another one is dropped with all that there
were. -/
example :
    let fs := QuickFilters.after [.set 1 ⟨.equals, some "x"⟩, .clear, .set 0 ⟨.differs, none⟩,
      .set 2 ⟨.contains, some "a"⟩, .set 0 ⟨.equals, none⟩]
    fs.get? 1 = none ∧
      fs.apply [[some "b", none, some "a"], [none, none, some "ab"], []] =
        [[none, none, some "ab"]] := by
  decide

end RowQuery
