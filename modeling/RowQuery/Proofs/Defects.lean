import Mathlib
import RowQuery.Proofs.Naming
/-!
# The defects of names

A column is at fault if it has no name, or the name of an earlier column.
Names are collected from the first column on, and up to a column at fault
what was collected is the columns that were passed, all of them named and
named differently (`Header.collected`). So a header has the names of its
columns exactly if there are columns and none of them is at fault; otherwise
it keeps the fault of the first that is, and answers every name by that
(`Header.ofNames_exact`).
-/

namespace RowQuery

namespace Header

/-- **What is wrong with the column at an index.** -/
inductive FaultAt (columns : List Cell) : ℕ → HeaderDefect → Prop
  /-- It has no name. -/
  | unnamed {i : ℕ} : columns[i]? = some none → FaultAt columns i (.unnamed i)
  /-- An earlier column has the same. -/
  | repeated {i j : ℕ} {name : String} : columns[i]? = some (some name) → j < i →
      columns[j]? = some (some name) → FaultAt columns i (.repeated name)

/-- The columns before an index are not at fault. -/
def FaultlessBefore (columns : List Cell) (i : ℕ) : Prop :=
  ∀ j < i, ∀ why, ¬ FaultAt columns j why

/-- **The defect of columns**: that there are none, or what is wrong with the
first of them that is at fault. -/
inductive Defective : List Cell → HeaderDefect → Prop
  /-- There are no columns. -/
  | noColumns : Defective [] .noColumns
  /-- The first fault. -/
  | first {columns : List Cell} {i : ℕ} {why : HeaderDefect} :
      FaultAt columns i why → FaultlessBefore columns i → Defective columns why

/-- **Columns that can be told apart by their names**: there are some, and each
has a name of its own. -/
def AllNamed (columns : List Cell) : Prop :=
  columns ≠ [] ∧ none ∉ columns ∧ columns.Nodup

/-- What can become of columns whose names are collected. -/
inductive Collected (columns : List Cell) : Except HeaderDefect (List String) → Prop
  /-- They have names, which are distinct. -/
  | ok {names : List String} : columns = names.map some → names.Nodup →
      Collected columns (.ok names)
  /-- Or there is a first fault. -/
  | error {i : ℕ} {why : HeaderDefect} : FaultAt columns i why → FaultlessBefore columns i →
      Collected columns (.error why)

variable {columns rest : List Cell} {names before : List String} {name : String} {i : ℕ}
variable {why why' : HeaderDefect}

/-! ## Faults -/

/-- No two things are wrong with a column. -/
theorem FaultAt.unique (h : FaultAt columns i why) (h' : FaultAt columns i why') :
    why = why' := by
  cases h with
  | unnamed hi =>
    cases h' with
    | unnamed => rfl
    | repeated hi' => exact absurd (hi.symm.trans hi') (by simp)
  | repeated hi =>
    cases h' with
    | unnamed hi' => exact absurd (hi.symm.trans hi') (by simp)
    | repeated hi' =>
      cases hi.symm.trans hi'
      rfl

/-- Where there are no columns, nothing is wrong with one. -/
theorem not_faultAt_nil : ¬ FaultAt [] i why := by
  rintro (h | ⟨h, -, -⟩) <;> cases h

/-- **Distinct names have no fault**, whatever comes behind them. -/
theorem faultlessBefore_length (h : before.Nodup) :
    FaultlessBefore (before.map some ++ rest) before.length := by
  have hpassed : ∀ j < before.length, (before.map some ++ rest)[j]? = before[j]?.map some :=
    fun j hj => by rw [List.getElem?_append_left (by simpa using hj), List.getElem?_map]
  rintro i hi why (hnone | ⟨hname, hji, hearlier⟩)
  · rw [hpassed i hi] at hnone
    simp at hnone
  · have hj := Nat.lt_trans hji hi
    rw [hpassed _ hi] at hname
    rw [hpassed _ hj] at hearlier
    have heq := Option.map_injective (Option.some_injective _) (hearlier.trans hname.symm)
    exact Nat.ne_of_lt hji ((List.getElem?_inj hj h).1 heq)

/-- Columns have no two defects. -/
theorem Defective.unique (h : Defective columns why) (h' : Defective columns why') :
    why = why' := by
  cases h with
  | noColumns =>
    cases h' with
    | noColumns => rfl
    | first hi' => exact absurd hi' not_faultAt_nil
  | @first _ i _ hi hbefore =>
    cases h' with
    | noColumns => exact absurd hi not_faultAt_nil
    | @first _ i' _ hi' hbefore' =>
      -- neither of the two indices can be before the other
      rcases lt_trichotomy i i' with hlt | rfl | hgt
      · exact absurd hi (hbefore' i hlt why)
      · exact hi.unique hi'
      · exact absurd hi' (hbefore i' hgt why')

/-- Columns with a defect are not all named, or not all differently. -/
theorem Defective.not_allNamed (h : Defective columns why) : ¬ AllNamed columns := by
  rintro ⟨hne, hnamed, hnodup⟩
  cases h with
  | noColumns => exact hne rfl
  | first hi =>
    cases hi with
    | unnamed hi => exact hnamed (List.mem_of_getElem? hi)
    | repeated hi hji hearlier =>
      obtain ⟨hj, -⟩ := List.getElem?_eq_some_iff.1 hearlier
      exact Nat.ne_of_lt hji ((List.getElem?_inj hj hnodup).1 (hearlier.trans hi.symm))

/-- Distinct names can be told apart. -/
theorem allNamed_map (hne : names ≠ []) (h : names.Nodup) : AllNamed (names.map some) :=
  ⟨by simpa using hne, by simp, h.map (Option.some_injective _)⟩

/-! ## Collecting -/

/-- **The names are collected up to the first fault.** The induction is on
the columns that are left, and those passed are the names collected. -/
theorem collected (h : before.Nodup) :
    Collected (before.map some ++ rest) (collect before rest) := by
  induction rest generalizing before with
  | nil => exact .ok (List.append_nil _) h
  | cons column rest ih =>
    have hhere : (before.map some ++ column :: rest)[before.length]? = some column := by
      rw [List.getElem?_append_right (by simp)]
      simp
    cases column with
    | none => exact .error (.unnamed hhere) (faultlessBefore_length h)
    | some name =>
      rw [collect]
      split
      · next hmem =>
        obtain ⟨j, hj, hname⟩ := List.getElem_of_mem hmem
        have hearlier : (before.map some ++ some name :: rest)[j]? = some (some name) := by
          rw [List.getElem?_append_left (by simpa using hj)]
          simp [hj, hname]
        exact .error (.repeated hhere hj hearlier) (faultlessBefore_length h)
      · next hnew =>
        have hlonger : (before ++ [name]).Nodup := by simpa using h.concat hnew
        simpa using ih hlonger

/-- A header is that of its names, or of its defect. -/
theorem ofNames_cases (columns : List Cell) :
    (∃ names, columns = names.map some ∧ names ≠ [] ∧ names.Nodup ∧
      ofNames columns = .named names) ∨
    ∃ why, Defective columns why ∧ ofNames columns = .positional why := by
  have hcollected : Collected columns (collect [] columns) := collected List.nodup_nil
  rw [ofNames]
  generalize collect [] columns = result at hcollected
  cases hcollected with
  | error hi hbefore => exact .inr ⟨_, .first hi hbefore, rfl⟩
  | @ok names hcolumns hnodup =>
    cases names with
    | nil => exact .inr ⟨_, hcolumns ▸ .noColumns, rfl⟩
    | cons name names => exact .inl ⟨_, hcolumns, List.cons_ne_nil name names, hnodup, rfl⟩

/-- The names are of use if they can be told apart, -/
theorem defect?_ofNames_eq_none_iff : (ofNames columns).defect? = none ↔ AllNamed columns := by
  rcases ofNames_cases columns with ⟨names, rfl, hne, hnodup, heq⟩ | ⟨why, hwhy, heq⟩
  · rw [heq]
    exact ⟨fun _ => allNamed_map hne hnodup, fun _ => rfl⟩
  · rw [heq]
    exact ⟨nofun, fun h => absurd h hwhy.not_allNamed⟩

/-- and otherwise their defect is kept. -/
theorem defect?_ofNames_eq_some_iff :
    (ofNames columns).defect? = some why ↔ Defective columns why := by
  rcases ofNames_cases columns with ⟨names, rfl, hne, hnodup, heq⟩ | ⟨why', hwhy', heq⟩
  · rw [heq]
    exact ⟨nofun, fun h => absurd (allNamed_map hne hnodup) h.not_allNamed⟩
  · rw [heq]
    exact ⟨fun h => Option.some.inj h ▸ hwhy', fun h => congrArg some (hwhy'.unique h)⟩

/-! ## Looking up -/

/-- A name is found at an index exactly if it stands there. -/
theorem indexOf_ofNames_eq_ok_iff (h : names.Nodup) (hne : names ≠ []) :
    (ofNames (names.map some)).indexOf name = .ok i ↔ names[i]? = some name := by
  refine ⟨fun hi => ?_, indexOf_ofNames h⟩
  by_cases hname : name ∈ names
  · obtain ⟨j, hj, rfl⟩ := List.getElem_of_mem hname
    have hfound := List.getElem?_eq_getElem hj
    rw [indexOf_ofNames h hfound] at hi
    exact Except.ok.inj hi ▸ hfound
  · rw [indexOf_ofNames_of_notMem h hne hname] at hi
    cases hi

/-- Only names that stand nowhere are not found. -/
theorem indexOf_ofNames_eq_error_iff (h : names.Nodup) (hne : names ≠ []) {e : BindError} :
    (ofNames (names.map some)).indexOf name = .error e ↔
      e = .unknownColumn name ∧ name ∉ names := by
  by_cases hname : name ∈ names
  · obtain ⟨j, hj, rfl⟩ := List.getElem_of_mem hname
    rw [indexOf_ofNames h (List.getElem?_eq_getElem hj)]
    simp
  · rw [indexOf_ofNames_of_notMem h hne hname]
    simp [hname, eq_comm]

/-- **A header is exact about its names.** They are of use exactly if there is
a column, every column has a name and no two have the same. Then a name is
found at an index exactly if the column there has it, and is unknown exactly
if no column does. Otherwise the header keeps that there are no columns, or
what is wrong with the first column that has no name or the name of an
earlier one; this is the answer to every name, also to those that stand once.
Positions mean the same all the while: a cell, counted from one, and the
position of the row at zero. -/
theorem ofNames_exact (columns : List Cell) :
    ((ofNames columns).defect? = none ↔ AllNamed columns) ∧
    ((ofNames columns).defect? = none → ∀ x,
      (∀ i, (ofNames columns).indexOf x = .ok i ↔ columns[i]? = some (some x)) ∧
      ∀ e, (ofNames columns).indexOf x = .error e ↔ e = .unknownColumn x ∧ some x ∉ columns) ∧
    (∀ why, (ofNames columns).defect? = some why ↔ Defective columns why) ∧
    (∀ why, (ofNames columns).defect? = some why → ∀ x,
      (ofNames columns).indexOf x = .error (.namesUnusable x why)) ∧
    (∀ n, (ofNames columns).resolve (.index (n + 1)) = .ok (.cell n)) ∧
    (ofNames columns).resolve (.index 0) = .ok .position ∧
    (ofNames columns).resolve .position = .ok .position := by
  refine ⟨defect?_ofNames_eq_none_iff, fun hnone x => ?_, fun why => defect?_ofNames_eq_some_iff,
    fun why hwhy x => ?_, fun _ => rfl, rfl, rfl⟩
  · rcases ofNames_cases columns with ⟨names, rfl, hne, hnodup, -⟩ | ⟨why, -, heq⟩
    · refine ⟨fun i => ?_, fun e => ?_⟩
      · rw [indexOf_ofNames_eq_ok_iff hnodup hne, List.getElem?_map]
        simp
      · rw [indexOf_ofNames_eq_error_iff hnodup hne]
        simp
    · rw [heq] at hnone
      cases hnone
  · rcases ofNames_cases columns with ⟨names, -, -, -, heq⟩ | ⟨why', -, heq⟩
    · rw [heq] at hwhy
      cases hwhy
    · rw [heq] at hwhy ⊢
      cases hwhy
      rfl

/-- The first fault is that of the third column, and the names that stand
once are of no use either. -/
example :
    (ofNames [some "a", some "b", some "a", none]).indexOf "b" =
      .error (.namesUnusable "b" (.repeated "a")) := rfl

end Header

end RowQuery
