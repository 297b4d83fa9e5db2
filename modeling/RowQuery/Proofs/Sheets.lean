import Mathlib.Data.List.Forall2
import RowQuery.Json.Builtin
import RowQuery.SheetJson
import RowQuery.Text.Reading
import RowQuery.Proofs.Order
/-!
# Which values are sheets

A value is the value of a sheet by its shape alone (`Json.Tabular`), and every
name and cell of it is then one of the sheet, at its place (`Json.SheetOf`).
Names, cells and rows are all read in one way: item by item, up to the first
that cannot be (`Itemwise`). So the defect that a value is refused for is the
first in the order of the text, where the columns come before the rows
(`Sheet.ofJson_exact`).
-/

namespace RowQuery

/-! ## Item by item -/

section Itemwise

variable {α β ε : Type}

/-- Items are converted one after the other, each with its index, up to the
first that cannot be. -/
structure Itemwise (item : ℕ → α → Except ε β) (all : ℕ → List α → Except ε (List β)) : Prop where
  /-- Nothing is converted without items. -/
  nil (i : ℕ) : all i [] = .ok []
  /-- The first item comes before the others. -/
  cons (i : ℕ) (a : α) (rest : List α) : all i (a :: rest) =
    match item i a with
    | .error e => .error e
    | .ok b => (all (i + 1) rest).map (b :: ·)

namespace Itemwise

variable {item : ℕ → α → Except ε β} {all : ℕ → List α → Except ε (List β)}
variable {R : α → β → Prop} {i : ℕ} {l : List α} {bs : List β} {e : ε}

/-- **Items are converted if each of them can be**, to the results in their
order. -/
theorem eq_ok_iff (h : Itemwise item all) (hR : ∀ i a b, item i a = .ok b ↔ R a b) :
    all i l = .ok bs ↔ List.Forall₂ R l bs := by
  induction l generalizing i bs with
  | nil => simp [h.nil, eq_comm]
  | cons a as ih =>
    rw [h.cons, List.forall₂_cons_left_iff]
    constructor
    · intro hall
      split at hall
      · cases hall
      · next b hb =>
        obtain ⟨bs, hbs, rfl⟩ := Text.exists_of_map_eq_ok hall
        exact ⟨b, bs, (hR i a b).1 hb, ih.1 hbs, rfl⟩
    · rintro ⟨b, bs, hab, hbs, rfl⟩
      rw [(hR i a b).2 hab, ih.2 hbs]
      rfl

/-- **Otherwise the first item that cannot be** decides what is wrong. -/
theorem eq_error_iff (h : Itemwise item all) (hR : ∀ i a b, item i a = .ok b ↔ R a b) :
    all i l = .error e ↔ ∃ before a after, l = before ++ a :: after ∧
      (∀ x ∈ before, ∃ b, R x b) ∧ item (i + before.length) a = .error e := by
  induction l generalizing i with
  | nil => simp [h.nil]
  | cons a as ih =>
    rw [h.cons]
    cases hitem : item i a with
    | error e' =>
      dsimp only
      constructor
      · rintro ⟨⟩
        exact ⟨[], a, as, rfl, List.forall_mem_nil _, hitem⟩
      · rintro ⟨before, a', after, heq, hbefore, herror⟩
        rcases List.cons_eq_append_iff.1 heq with ⟨rfl, htail⟩ | ⟨before, rfl, rfl⟩
        · obtain ⟨rfl, rfl⟩ := List.cons.inj htail
          obtain rfl := Except.error.inj (hitem.symm.trans herror)
          rfl
        · -- the first item has no conversion
          obtain ⟨b, hb⟩ := hbefore a List.mem_cons_self
          rw [(hR i a b).2 hb] at hitem
          cases hitem
    | ok b =>
      have hfirst : R a b := (hR i a b).1 hitem
      dsimp only
      rw [Text.map_eq_error_iff, ih]
      constructor
      · rintro ⟨before, a', after, rfl, hbefore, herror⟩
        refine ⟨a :: before, a', after, rfl, List.forall_mem_cons.2 ⟨⟨b, hfirst⟩, hbefore⟩, ?_⟩
        rwa [List.length_cons, Nat.add_comm before.length, ← Nat.add_assoc]
      · rintro ⟨before, a', after, heq, hbefore, herror⟩
        rcases List.cons_eq_append_iff.1 heq with ⟨rfl, htail⟩ | ⟨before, rfl, rfl⟩
        · obtain ⟨rfl, rfl⟩ := List.cons.inj htail
          rw [List.length_nil, Nat.add_zero, hitem] at herror
          cases herror
        · refine ⟨before, a', after, rfl, fun x hx => hbefore x (List.mem_cons_of_mem _ hx), ?_⟩
          rwa [List.length_cons, Nat.add_comm before.length, ← Nat.add_assoc] at herror

end Itemwise

/-- Items have results if each of them has one. -/
theorem exists_forall₂_iff {R : α → β → Prop} {as : List α} :
    (∃ bs, List.Forall₂ R as bs) ↔ ∀ a ∈ as, ∃ b, R a b := by
  induction as with
  | nil => simp
  | cons a as ih => simp [List.forall₂_cons_left_iff, ← ih, exists_and_left, exists_and_right]

end Itemwise

/-! ## The shape of a sheet -/

namespace Json

variable {v found : Json} {members : List (String × Json)}

/-- Whether a value can be the name of a column. -/
def IsName (v : Json) : Prop :=
  v = .null ∨ ∃ s, v = .string s

/-- Whether a value can be a cell: any value but a container. -/
def IsScalar (v : Json) : Prop :=
  (∀ items, v ≠ .array items) ∧ ∀ members, v ≠ .object members

/-- Whether a value can be a row: an array of cells. -/
def IsRow (v : Json) : Prop :=
  ∃ cells, v = .array cells ∧ ∀ c ∈ cells, c.IsScalar

/-- **The shape of a sheet**: an object whose columns are missing, null or an
array of names, and whose rows are an array of rows. -/
def Tabular (v : Json) : Prop :=
  ∃ members, v = .object members ∧
    (member? "columns" members = none ∨ member? "columns" members = some .null ∨
      ∃ names, member? "columns" members = some (.array names) ∧ ∀ n ∈ names, n.IsName) ∧
    ∃ rows, member? "rows" members = some (.array rows) ∧ ∀ r ∈ rows, r.IsRow

/-- The name that a value is. -/
inductive NameOf : Json → Cell → Prop
  /-- Null is a name that is absent. -/
  | null : NameOf .null none
  /-- A string is itself. -/
  | string (s : String) : NameOf (.string s) (some s)

/-- The cell that a value is. -/
inductive CellOf [Format] : Json → Cell → Prop
  /-- Null is absent. -/
  | null : CellOf .null none
  /-- A string is itself. -/
  | string (s : String) : CellOf (.string s) (some s)
  /-- A truth value is its text. -/
  | bool (b : Bool) : CellOf (.bool b) (some (toString b))
  /-- So is a number. -/
  | number (n : JsonNumber) : CellOf (.number n) (some (Format.number n))

/-- The row that a value is: its cells, one for each item and in their
order. -/
inductive RowOf [Format] : Json → Row → Prop
  /-- A row is an array. -/
  | array {cells : List Json} {row : Row} :
      List.Forall₂ CellOf cells row → RowOf (.array cells) row

/-- The names that the columns of an object are. -/
inductive NamesOf : Option Json → List Cell → Prop
  /-- There need not be any columns. -/
  | missing : NamesOf none []
  /-- They may be null. -/
  | null : NamesOf (some .null) []
  /-- Else there is a name for each. -/
  | array {items : List Json} {names : List Cell} :
      List.Forall₂ NameOf items names → NamesOf (some (.array items)) names

/-- **The sheet that a value is.** Nothing else in the object matters. -/
inductive SheetOf [Format] : Json → Sheet → Prop
  /-- A sheet is an object. -/
  | object {members : List (String × Json)} {names : List Cell} {items : List Json}
      {rows : List Row} : NamesOf (member? "columns" members) names →
      member? "rows" members = some (.array items) → List.Forall₂ RowOf items rows →
      SheetOf (.object members) ⟨names, rows⟩

/-- **What is wrong with a value that is no sheet**, in words: its first defect,
where what is counted is counted from one. -/
inductive Complaint [Format] : Json → String → Prop
  /-- It is no object. -/
  | notObject {v : Json} : (∀ members, v ≠ .object members) →
      Complaint v "expected an object with \"columns\" and \"rows\""
  /-- Its columns are no array. -/
  | columnsNotArray {members : List (String × Json)} {found : Json} :
      member? "columns" members = some found → found ≠ .null → (∀ names, found ≠ .array names) →
      Complaint (.object members) ("\"columns\" must be an array, got " ++ Format.compact found)
  /-- A column has what is no name, and those before have names. -/
  | badName {members : List (String × Json)} {before after : List Json} {found : Json} :
      member? "columns" members = some (.array (before ++ found :: after)) →
      (∀ n ∈ before, n.IsName) → ¬ found.IsName →
      Complaint (.object members) ("column " ++ toString (before.length + 1) ++
        " name must be a string or null, got " ++ Format.compact found)
  /-- The columns are as they should be, and there are no rows. -/
  | rowsMissing {members : List (String × Json)} {names : List Cell} :
      NamesOf (member? "columns" members) names → member? "rows" members = none →
      Complaint (.object members) "missing \"rows\""
  /-- Or they are no array. -/
  | rowsNotArray {members : List (String × Json)} {names : List Cell} {found : Json} :
      NamesOf (member? "columns" members) names →
      member? "rows" members = some found → (∀ rows, found ≠ .array rows) →
      Complaint (.object members) ("\"rows\" must be an array, got " ++ Format.compact found)
  /-- Or one of them is no array, and those before are rows. -/
  | rowNotArray {members : List (String × Json)} {names : List Cell} {before after : List Json}
      {found : Json} : NamesOf (member? "columns" members) names →
      member? "rows" members = some (.array (before ++ found :: after)) →
      (∀ r ∈ before, r.IsRow) → (∀ cells, found ≠ .array cells) →
      Complaint (.object members) ("row " ++ toString (before.length + 1) ++
        " must be an array, got " ++ Format.compact found)
  /-- Or one of them holds a container behind cells, and those before are
  rows. -/
  | nestedCell {members : List (String × Json)} {names : List Cell}
      {before cells behind after : List Json} {found : Json} :
      NamesOf (member? "columns" members) names →
      member? "rows" members =
        some (.array (before ++ .array (cells ++ found :: behind) :: after)) →
      (∀ r ∈ before, r.IsRow) → (∀ c ∈ cells, c.IsScalar) → ¬ found.IsScalar →
      Complaint (.object members) ("row " ++ toString (before.length + 1) ++
        " has a nested value: " ++ Format.compact found)

theorem exists_nameOf_iff : (∃ c, NameOf v c) ↔ v.IsName := by
  constructor
  · rintro ⟨_, - | s⟩
    · exact .inl rfl
    · exact .inr ⟨s, rfl⟩
  · rintro (rfl | ⟨s, rfl⟩)
    · exact ⟨_, .null⟩
    · exact ⟨_, .string s⟩

theorem exists_cellOf_iff [Format] : (∃ c, CellOf v c) ↔ v.IsScalar := by
  cases v with
  | null => exact iff_of_true ⟨_, .null⟩ (by simp [IsScalar])
  | bool b => exact iff_of_true ⟨_, .bool b⟩ (by simp [IsScalar])
  | number n => exact iff_of_true ⟨_, .number n⟩ (by simp [IsScalar])
  | string s => exact iff_of_true ⟨_, .string s⟩ (by simp [IsScalar])
  | array items => exact iff_of_false (by rintro ⟨_, ⟨⟩⟩) fun h => h.1 items rfl
  | object members => exact iff_of_false (by rintro ⟨_, ⟨⟩⟩) fun h => h.2 members rfl

theorem exists_rowOf_iff [Format] : (∃ row, RowOf v row) ↔ v.IsRow := by
  constructor
  · rintro ⟨_, ⟨hcells⟩⟩
    refine ⟨_, rfl, fun c hc => ?_⟩
    exact exists_cellOf_iff.1 (exists_forall₂_iff.1 ⟨_, hcells⟩ c hc)
  · rintro ⟨cells, rfl, hcells⟩
    obtain ⟨row, hrow⟩ := exists_forall₂_iff.2 fun c hc => exists_cellOf_iff.2 (hcells c hc)
    exact ⟨row, .array hrow⟩

theorem exists_namesOf_iff {columns : Option Json} : (∃ names, NamesOf columns names) ↔
    columns = none ∨ columns = some .null ∨
      ∃ items, columns = some (.array items) ∧ ∀ n ∈ items, n.IsName := by
  constructor
  · rintro ⟨_, - | - | hnames⟩
    · exact .inl rfl
    · exact .inr (.inl rfl)
    · refine .inr (.inr ⟨_, rfl, fun n hn => ?_⟩)
      exact exists_nameOf_iff.1 (exists_forall₂_iff.1 ⟨_, hnames⟩ n hn)
  · rintro (rfl | rfl | ⟨items, rfl, hitems⟩)
    · exact ⟨_, .missing⟩
    · exact ⟨_, .null⟩
    · obtain ⟨names, hnames⟩ := exists_forall₂_iff.2 fun n hn => exists_nameOf_iff.2 (hitems n hn)
      exact ⟨names, .array hnames⟩

/-- **A value is a sheet if it has the shape of one.** -/
theorem exists_sheetOf_iff [Format] : (∃ t, SheetOf v t) ↔ v.Tabular := by
  constructor
  · rintro ⟨_, hnames, hitems, hrows⟩
    refine ⟨_, rfl, exists_namesOf_iff.1 ⟨_, hnames⟩, _, hitems, fun r hr => ?_⟩
    exact exists_rowOf_iff.1 (exists_forall₂_iff.1 ⟨_, hrows⟩ r hr)
  · rintro ⟨members, rfl, hcolumns, items, hitems, hrows⟩
    obtain ⟨names, hnames⟩ := exists_namesOf_iff.2 hcolumns
    obtain ⟨rows, hrows⟩ := exists_forall₂_iff.2 fun r hr => exists_rowOf_iff.2 (hrows r hr)
    exact ⟨_, .object hnames hitems hrows⟩

/-- What is set under another key is not found. -/
theorem member?_insert_of_ne {key other : String} (h : key ≠ other) (value : Json)
    (members : List (String × Json)) :
    member? key (insert other value members) = member? key members := by
  have hne : (key == other) = false := beq_false_of_ne h
  induction members with
  | nil => simp [insert, member?, h]
  | cons m rest ih =>
    obtain ⟨k, w⟩ := m
    rw [insert]
    split
    · simp [member?, List.lookup_cons, hne]
    · next heq =>
      obtain rfl : other = k := String.toList_inj.1 (Text.order_eq_eq.1 heq)
      simp [member?, List.lookup_cons, hne]
    · simp only [member?, List.lookup_cons] at ih ⊢
      rw [ih]

end Json

/-! ## Reading a sheet -/

namespace Sheet

variable {v found : Json} {members : List (String × Json)} {index : ℕ} {c : Cell} {r : Row}
variable {d : SheetDefect}

/-- The name of a column, which has the given index. -/
def nameOfJson (index : ℕ) : Json → Except SheetDefect Cell
  | .string s => .ok (some s)
  | .null => .ok none
  | found => .error (.nameNotString index found)

theorem itemwise_names : Itemwise nameOfJson namesOfJson where
  nil _ := rfl
  cons i v rest := by cases v <;> rfl

theorem nameOfJson_eq_ok_iff (index : ℕ) (v : Json) (c : Cell) :
    nameOfJson index v = .ok c ↔ v.NameOf c := by
  constructor
  · intro h
    cases v with
    | null =>
      cases h
      exact .null
    | string s =>
      cases h
      exact .string s
    | bool | number | array | object => cases h
  · rintro (- | s) <;> rfl

theorem nameOfJson_eq_error_iff :
    nameOfJson index v = .error d ↔ ¬ v.IsName ∧ d = .nameNotString index v := by
  cases v <;> simp [nameOfJson, Json.IsName, eq_comm]

theorem columnsOfJson_eq_ok_iff {columns : Option Json} {names : List Cell} :
    columnsOfJson columns = .ok names ↔ Json.NamesOf columns names := by
  have hnames (items : List Json) : namesOfJson 0 items = .ok names ↔
      List.Forall₂ Json.NameOf items names :=
    itemwise_names.eq_ok_iff nameOfJson_eq_ok_iff
  constructor
  · intro h
    match columns with
    | none =>
      cases h
      exact .missing
    | some .null =>
      cases h
      exact .null
    | some (.array items) => exact .array ((hnames items).1 h)
  · rintro (- | - | h)
    · rfl
    · rfl
    · exact (hnames _).2 h

theorem columnsOfJson_eq_error_iff {columns : Option Json} : columnsOfJson columns = .error d ↔
    (∃ found, columns = some found ∧ found ≠ .null ∧ (∀ names, found ≠ .array names) ∧
        d = .columnsNotArray found) ∨
      ∃ before found after, columns = some (.array (before ++ found :: after)) ∧
        (∀ n ∈ before, n.IsName) ∧ ¬ found.IsName ∧ d = .nameNotString before.length found := by
  match columns with
  | none => simp [columnsOfJson]
  | some (.array items) =>
    have hnames := itemwise_names.eq_error_iff (i := 0) (l := items) (e := d) nameOfJson_eq_ok_iff
    simp only [nameOfJson_eq_error_iff, Json.exists_nameOf_iff, Nat.zero_add] at hnames
    simp [columnsOfJson, hnames]
  | some .null | some (.bool _) | some (.number _) | some (.string _) | some (.object _) =>
    simp [columnsOfJson, eq_comm]

section Rows

variable [Json.Format]

/-- A cell of the row that has the given index. -/
def cellOfJson (index : ℕ) (v : Json) : Except SheetDefect Cell :=
  match cellOfJson? v with
  | some c => .ok c
  | none => .error (.nestedCell index v)

/-- A row, which has the given index. -/
def rowOfJson (index : ℕ) : Json → Except SheetDefect Row
  | .array cells => cellsOfJson index cells
  | found => .error (.rowNotArray index found)

theorem itemwise_cells (index : ℕ) :
    Itemwise (fun _ => cellOfJson index) (fun _ => cellsOfJson index) where
  nil _ := rfl
  cons i v rest := by
    rw [cellsOfJson, cellOfJson]
    cases cellOfJson? v <;> rfl

theorem itemwise_rows : Itemwise rowOfJson rowsOfJson where
  nil _ := rfl
  cons i v rest := by
    cases v with
    | array cells =>
      rw [rowsOfJson, rowOfJson]
      cases cellsOfJson i cells <;> rfl
    | null | bool | number | string | object => rfl

theorem cellOfJson_eq_ok_iff (v : Json) (c : Cell) :
    cellOfJson index v = .ok c ↔ v.CellOf c := by
  constructor
  · intro h
    cases v with
    | null =>
      cases h
      exact .null
    | string s =>
      cases h
      exact .string s
    | bool b =>
      cases h
      cases b <;> exact .bool _
    | number n =>
      cases h
      exact .number n
    | array | object => cases h
  · rintro (- | s | b | n)
    · rfl
    · rfl
    · cases b <;> rfl
    · rfl

theorem cellOfJson_eq_error_iff :
    cellOfJson index v = .error d ↔ ¬ v.IsScalar ∧ d = .nestedCell index v := by
  cases v <;> simp [cellOfJson, cellOfJson?, Json.IsScalar, eq_comm]

theorem rowOfJson_eq_ok_iff (index : ℕ) (v : Json) (r : Row) :
    rowOfJson index v = .ok r ↔ v.RowOf r := by
  have hcells (cells : List Json) : cellsOfJson index cells = .ok r ↔
      List.Forall₂ Json.CellOf cells r :=
    (itemwise_cells index).eq_ok_iff (i := 0) fun _ => cellOfJson_eq_ok_iff
  constructor
  · intro h
    cases v with
    | array cells => exact .array ((hcells cells).1 h)
    | null | bool | number | string | object => cases h
  · rintro ⟨h⟩
    exact (hcells _).2 h

theorem rowOfJson_eq_error_iff : rowOfJson index v = .error d ↔
    ((∀ cells, v ≠ .array cells) ∧ d = .rowNotArray index v) ∨
      ∃ cells found behind, v = .array (cells ++ found :: behind) ∧
        (∀ c ∈ cells, c.IsScalar) ∧ ¬ found.IsScalar ∧ d = .nestedCell index found := by
  cases v with
  | array cells =>
    have hcells := (itemwise_cells index).eq_error_iff (i := 0) (l := cells) (e := d)
      fun _ => cellOfJson_eq_ok_iff
    simp only [cellOfJson_eq_error_iff, Json.exists_cellOf_iff] at hcells
    simp [rowOfJson, hcells]
  | null | bool | number | string | object => simp [rowOfJson, eq_comm]

theorem ofJson_eq_ok_iff {t : Sheet} : ofJson v = .ok t ↔ v.SheetOf t := by
  have hrows (items : List Json) (rows : List Row) : rowsOfJson 0 items = .ok rows ↔
      List.Forall₂ Json.RowOf items rows :=
    itemwise_rows.eq_ok_iff rowOfJson_eq_ok_iff
  constructor
  · intro h
    unfold ofJson at h
    split at h
    · split at h
      · cases h
      · next names hnames =>
        split at h
        · next items hitems =>
          obtain ⟨rows, hr, rfl⟩ := Text.exists_of_map_eq_ok h
          exact .object (columnsOfJson_eq_ok_iff.1 hnames) hitems ((hrows _ _).1 hr)
        · cases h
        · cases h
    · cases h
  · rintro ⟨hnames, hitems, hr⟩
    simp only [ofJson, columnsOfJson_eq_ok_iff.2 hnames, hitems, (hrows _ _).2 hr]
    rfl

/-- **What is said of a value is its first defect.** -/
theorem complaint_of_error (h : ofJson v = .error d) : v.Complaint d.describe := by
  unfold ofJson at h
  split at h
  · split at h
    · next e he =>
      cases h
      rcases columnsOfJson_eq_error_iff.1 he with
        ⟨found, hfound, hnull, harray, rfl⟩ | ⟨before, found, after, hitems, hbefore, hbad, rfl⟩
      · exact .columnsNotArray hfound hnull harray
      · exact .badName hitems hbefore hbad
    · next names hnames =>
      have hnames := columnsOfJson_eq_ok_iff.1 hnames
      split at h
      · next items hitems =>
        obtain ⟨before, row, after, rfl, hbefore, hrow⟩ :=
          (itemwise_rows.eq_error_iff rowOfJson_eq_ok_iff).1 (Text.map_eq_error_iff.1 h)
        simp only [Json.exists_rowOf_iff, Nat.zero_add] at hbefore hrow
        rcases rowOfJson_eq_error_iff.1 hrow with
          ⟨harray, rfl⟩ | ⟨cells, found, behind, rfl, hcells, hbad, rfl⟩
        · exact .rowNotArray hnames hitems hbefore harray
        · exact .nestedCell hnames hitems hbefore hcells hbad
      · next found harray hfound =>
        cases h
        exact .rowsNotArray hnames hfound harray
      · next hmissing =>
        cases h
        exact .rowsMissing hnames hmissing
  · next hobject =>
    cases h
    exact .notObject hobject

/-- **And a defect that is the first is said.** -/
theorem error_of_complaint {text : String} (h : v.Complaint text) :
    ∃ d, ofJson v = .error d ∧ d.describe = text := by
  have hrows {before : List Json} {found : Json} {d : SheetDefect}
      (hbefore : ∀ r ∈ before, r.IsRow) (hfound : rowOfJson before.length found = .error d)
      (after : List Json) : rowsOfJson 0 (before ++ found :: after) = .error d := by
    refine (itemwise_rows.eq_error_iff rowOfJson_eq_ok_iff).2 ⟨before, found, after, rfl, ?_⟩
    simp only [Json.exists_rowOf_iff, Nat.zero_add]
    exact ⟨hbefore, hfound⟩
  cases h with
  | notObject hobject =>
    refine ⟨.notObject, ?_, rfl⟩
    cases v with
    | object members => exact absurd rfl (hobject members)
    | null | bool | number | string | array => rfl
  | columnsNotArray hfound hnull harray =>
    refine ⟨.columnsNotArray _, ?_, rfl⟩
    rw [ofJson, columnsOfJson_eq_error_iff.2 (.inl ⟨_, hfound, hnull, harray, rfl⟩)]
  | badName hitems hbefore hbad =>
    refine ⟨.nameNotString _ _, ?_, rfl⟩
    rw [ofJson, columnsOfJson_eq_error_iff.2 (.inr ⟨_, _, _, hitems, hbefore, hbad, rfl⟩)]
  | rowsMissing hnames hmissing =>
    refine ⟨.rowsMissing, ?_, rfl⟩
    simp only [ofJson, columnsOfJson_eq_ok_iff.2 hnames, hmissing]
  | rowsNotArray hnames hfound harray =>
    refine ⟨.rowsNotArray _, ?_, rfl⟩
    simp only [ofJson, columnsOfJson_eq_ok_iff.2 hnames, hfound]
  | rowNotArray hnames hitems hbefore harray =>
    refine ⟨.rowNotArray _ _, ?_, rfl⟩
    have hrow := hrows hbefore (rowOfJson_eq_error_iff.2 (.inl ⟨harray, rfl⟩))
    simp only [ofJson, columnsOfJson_eq_ok_iff.2 hnames, hitems, hrow]
    rfl
  | @nestedCell _ _ _ cells behind _ found hnames hitems hbefore hcells hbad =>
    refine ⟨.nestedCell _ _, ?_, rfl⟩
    have hrow := hrows hbefore
      (rowOfJson_eq_error_iff.2 (.inr ⟨cells, found, behind, rfl, hcells, hbad, rfl⟩))
    simp only [ofJson, columnsOfJson_eq_ok_iff.2 hnames, hitems, hrow]
    rfl

/-- **A sheet is read from just the values that have its shape**: objects whose
columns are missing, null or an array of strings and nulls, and whose rows
are an array of arrays of values that are no containers. It has a name for
each of the columns, a row for each of the rows and a cell for each item of
a row, in their order. Of any other value the first defect is said, be there
others behind it: that it is no object; then that its columns are no array,
or which is the first of them that is no name; then that its rows are
missing or no array, or which is the first of them that is no array or has a
container in it, and which is the first such. Members with other keys change
nothing of this. -/
theorem ofJson_exact (v : Json) :
    ((∃ t, ofJson v = .ok t) ↔ v.Tabular) ∧
    (∀ t, ofJson v = .ok t ↔ v.SheetOf t) ∧
    (∀ text, (∃ d, ofJson v = .error d ∧ d.describe = text) ↔ v.Complaint text) ∧
    ∀ key value members, key ∉ ["columns", "rows"] → v = .object members →
      ofJson (.object (Json.insert key value members)) = ofJson v := by
  refine ⟨?_, fun _ => ofJson_eq_ok_iff, fun text => ⟨?_, error_of_complaint⟩, ?_⟩
  · simp only [ofJson_eq_ok_iff, Json.exists_sheetOf_iff]
  · rintro ⟨d, hd, rfl⟩
    exact complaint_of_error hd
  · rintro key value members hkey rfl
    simp only [List.mem_cons, List.not_mem_nil, or_false, not_or] at hkey
    rw [ofJson, ofJson, Json.member?_insert_of_ne (Ne.symm hkey.1),
      Json.member?_insert_of_ne (Ne.symm hkey.2)]

end Rows

/-- The second of the columns comes before the rows, of which the first is no
row either. -/
example : ofJson (.object [("columns", .array [.string "a", .bool true]),
    ("rows", .array [.null])]) = .error (.nameNotString 1 (.bool true)) :=
  rfl

end Sheet

end RowQuery
