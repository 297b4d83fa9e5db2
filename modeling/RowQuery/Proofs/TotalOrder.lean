import Mathlib
import RowQuery.Selection
import RowQuery.Proofs.Bytes
import RowQuery.Proofs.Joining
/-!
# The order that comparisons follow

The six operators of order are computed apart from each other, and the text on
the right of an operator otherwise than a column there. All of them follow one
order, of the values that the two sides read (`Comparison.matches_iff`): absent
is below every text, and texts are as `Text.Before` has them (`Cell.below_iff`).
So the filters by a comparison behave as a total order does
(`Selection.compared_totally`).
-/

namespace RowQuery

namespace Cell

/-- **A cell below another one**: absent is below every text. -/
def Below : Cell → Cell → Prop
  | none, some _ => True
  | some a, some b => Text.Before a.toList b.toList
  | _, none => False

variable {v w u : Cell}

/-- It is the order that cells have as options. -/
theorem below_iff : v.Below w ↔ v < w := by
  rcases v with - | a <;> rcases w with - | b
  · simp [Below]
  · simp [Below]
  · simp [Below]
  · rw [Option.some_lt_some]
    exact Text.before_iff

/-- **Of two cells one is below the other, or they are equal**, and only one
of the three is so. -/
theorem below_cases (v w : Cell) :
    (v < w ∧ v ≠ w ∧ ¬ w < v) ∨ (¬ v < w ∧ v = w ∧ ¬ w < v) ∨ (¬ v < w ∧ v ≠ w ∧ w < v) := by
  rw [← order_eq_lt, ← order_eq_gt, ne_eq, ← order_eq_eq]
  cases v.order w <;> simp

/-- What is below a cell is below all that this one is below. -/
theorem lt_trans (h : v < w) (h' : w < u) : v < u := by
  rcases u with - | c
  · exact absurd h' (by simp)
  · rcases v with - | a
    · simp
    · rcases w with - | b
      · exact absurd h (by simp)
      · rw [Option.some_lt_some] at h h' ⊢
        exact h.trans h'

end Cell

namespace Query

/-- **The operators of order as a total order has them**: which of them hold
between two things. -/
structure Operator.Totally (holds : Operator → Prop) : Prop where
  /-- The one is less, or equal, or greater, and only one of the three. -/
  one : (holds .less ∧ ¬ holds .equal ∧ ¬ holds .greater) ∨
    (¬ holds .less ∧ holds .equal ∧ ¬ holds .greater) ∨
    (¬ holds .less ∧ ¬ holds .equal ∧ holds .greater)
  /-- Not greater. -/
  lessOrEqual : holds .lessOrEqual ↔ ¬ holds .greater
  /-- Not less. -/
  greaterOrEqual : holds .greaterOrEqual ↔ ¬ holds .less
  /-- Not equal. -/
  notEqual : holds .notEqual ↔ ¬ holds .equal
  /-- Neither less nor greater. -/
  both : holds .lessOrEqual ∧ holds .greaterOrEqual ↔ holds .equal

/-- **The table of operators is total** between any two cells. -/
theorem Operator.totally_relates [Pattern.Engine] (v w : Cell) :
    Operator.Totally fun op => op.Relates v w := by
  rcases Cell.below_cases v w with ⟨hlt, hne, hgt⟩ | ⟨hlt, rfl, -⟩ | ⟨hlt, hne, hgt⟩
  · constructor <;> simp [Relates, hlt, hne, hgt]
  · constructor <;> simp [Relates, hlt]
  · constructor <;> simp [Relates, hlt, hne, hgt]

/-- What is greater is neither equal nor less. -/
theorem Operator.Totally.greater {holds : Operator → Prop} (h : Operator.Totally holds) :
    holds .greater ↔ ¬ holds .equal ∧ ¬ holds .less := by
  have hone := h.one
  tauto

/-! ## What the sides of a comparison read -/

/-- A side of a comparison that means something under a header. -/
def Operand.Resolves (h : Header) : Operand → Prop
  | .text _ => True
  | .reference r => ∃ source, h.resolve r = .ok source

/-- **What a side of a comparison reads** from a row. -/
inductive Operand.Reads (h : Header) (row : Row) (ordinal : ℕ) : Operand → Cell → Prop
  /-- A text reads itself. -/
  | text {s : String} : Reads h row ordinal (.text s) (some s)
  /-- A reference reads what it means. -/
  | reference {r : Reference} {source : Source} {v : Cell} :
      h.resolve r = .ok source → source.Reads row ordinal v → Reads h row ordinal (.reference r) v

section Sides

variable {h : Header} {row : Row} {ordinal : ℕ} {y : Operand} {v w : Cell}

/-- A side that means something reads something. -/
theorem Operand.Resolves.exists_reads (hy : y.Resolves h) (row : Row) (ordinal : ℕ) :
    ∃ v, y.Reads h row ordinal v := by
  cases y with
  | text s => exact ⟨some s, .text⟩
  | reference r =>
    obtain ⟨source, hsource⟩ := hy
    exact ⟨source.read row ordinal, .reference hsource (Source.reads_iff.2 rfl)⟩

/-- And nothing else. -/
theorem Operand.Reads.unique (hv : y.Reads h row ordinal v) (hw : y.Reads h row ordinal w) :
    v = w := by
  cases hv with
  | text => cases hw; rfl
  | reference hr hv =>
    cases hw with
    | reference hr' hw =>
      rw [hr] at hr'
      obtain rfl := Except.ok.inj hr'
      exact (Source.reads_iff.1 hv).symm.trans (Source.reads_iff.1 hw)

variable [Pattern.Engine] {x : Reference} {op : Operator}

/-- A comparison of sides that mean something has a predicate, unless it asks
for a regular expression. -/
theorem Comparison.exists_predicate (hx : Operand.Resolves h (.reference x)) (hy : y.Resolves h)
    (hop : op ≠ .regex) : ∃ p, Comparison.predicate h ⟨x, op, y⟩ = .ok p := by
  cases hp : Comparison.predicate h ⟨x, op, y⟩ with
  | ok p => exact ⟨p, rfl⟩
  | error e =>
    exfalso
    rcases predicate_eq_error_iff.1 hp with hunresolved | ⟨-, hoperand⟩
    · obtain ⟨source, hsource⟩ := hx
      rw [hsource] at hunresolved
      cases hunresolved
    · cases y with
      | text s => exact hop hoperand.1
      | reference r =>
        obtain ⟨source, hsource⟩ := hy
        have hunresolved : h.resolve r = .error e := hoperand
        rw [hsource] at hunresolved
        cases hunresolved

/-- **A comparison matches where the two values are related**, whether the
right one is a text or is read from the row. -/
theorem Comparison.matches_iff (hx : Operand.Reads h row ordinal (.reference x) v)
    (hy : y.Reads h row ordinal w) :
    Comparison.Matches h row ordinal ⟨x, op, y⟩ ↔ op.Relates v w := by
  cases hx with
  | @reference _ source _ hr hv =>
    obtain rfl := Source.reads_iff.1 hv
    cases hy with
    | @reference r pattern _ hr' hw =>
      obtain rfl := Source.reads_iff.1 hw
      rw [Matches, predicate_reference hr hr', ← Operator.holds_iff]
      simp
    | @text s =>
      rw [Matches, predicate_text hr]
      cases hs : op.against s with
      | error e =>
        -- the text is no regular expression, so nothing is related to it
        have hfalse := Operator.holds_eq_false_of_against hs (source.read row ordinal)
        rw [← Operator.holds_iff, hfalse]
        simp [Except.map]
      | ok holds =>
        rw [← Operator.against_iff hs]
        simp [Except.map]

end Sides

end Query

/-! ## Filters by a comparison -/

namespace Selection

open Query (Reference Operand Operator Comparison)

section Filters

variable [Pattern.Engine]
variable {h : Header} {row : Row} {ordinal : ℕ} {c : Comparison} {query : String}

/-- Whether the filter by a comparison selects a row. -/
def Compared (h : Header) (row : Row) (ordinal : ℕ) (x : Reference) (op : Operator)
    (y : Operand) : Prop :=
  ∃ s, ofTree "" [[.comparison ⟨x, op, y⟩]] h = .ok s ∧ s.selects row ordinal = true

/-- The filter by a comparison has its predicate. -/
theorem ofTree_comparison (query : String) (c : Comparison) (h : Header) :
    ofTree query [[.comparison c]] h = (c.predicate h).map fun p => ⟨query, some p⟩ := by
  rw [ofTree, Query.predicate_term, Query.Term.predicate]

/-- And so has the filter by a text that is read as one. -/
theorem ofText_comparison {p : Predicate} (hread : Query.read query = .ok [[.comparison c]])
    (hp : c.predicate h = .ok p) : ofText query h = .ok ⟨query, some p⟩ := by
  rw [Query.ofText_of_read hread, Query.predicate_term, Query.Term.predicate, hp]
  rfl

theorem compared_iff {x : Reference} {op : Operator} {y : Operand} :
    Compared h row ordinal x op y ↔ Comparison.Matches h row ordinal ⟨x, op, y⟩ := by
  rw [Compared, ofTree_comparison, Comparison.Matches]
  cases Comparison.predicate h ⟨x, op, y⟩ <;> simp [Except.map, selects]

/-- A filter by a comparison selects where the two values are related. -/
theorem compared_iff_relates {x : Reference} {op : Operator} {y : Operand} {v w : Cell}
    (hx : Operand.Reads h row ordinal (.reference x) v) (hy : y.Reads h row ordinal w) :
    Compared h row ordinal x op y ↔ op.Relates v w :=
  compared_iff.trans (Comparison.matches_iff hx hy)

/-- **Comparisons follow one total order, with absent least.** Take a row at a
place, a reference and a second reference or a text, all of which mean
something under the header. There is a filter by each comparison of the two,
also where it was read from a text, and the operators of order select as in a
total order. Between references, to be less one way is to be greater the other
way, and what is less than the lesser is less. Less and equal are the order of
the values that are read and their equality: absent is below every text and
nothing is below it, and of two texts that is below which ends in the other or
has the lesser code point at the first difference, which is the order of their
bytes. -/
theorem compared_totally (h : Header) (row : Row) (ordinal : ℕ) :
    (∀ (x : Reference) (y : Operand), Operand.Resolves h (.reference x) → y.Resolves h →
      (∀ op query, op ≠ .regex → ∃ s, ofTree query [[.comparison ⟨x, op, y⟩]] h = .ok s ∧
        (Query.read query = .ok [[.comparison ⟨x, op, y⟩]] → ofText query h = .ok s) ∧
        (s.selects row ordinal = true ↔ Compared h row ordinal x op y)) ∧
      Operator.Totally fun op => Compared h row ordinal x op y) ∧
    (∀ x y : Reference, Operand.Resolves h (.reference x) → Operand.Resolves h (.reference y) →
      (Compared h row ordinal x .less (.reference y) ↔
        Compared h row ordinal y .greater (.reference x))) ∧
    (∀ x y z : Reference, Operand.Resolves h (.reference x) → Operand.Resolves h (.reference y) →
      Operand.Resolves h (.reference z) →
      Compared h row ordinal x .less (.reference y) →
      Compared h row ordinal y .less (.reference z) →
      Compared h row ordinal x .less (.reference z)) ∧
    (∀ (x : Reference) (y : Operand) (v w : Cell), Operand.Reads h row ordinal (.reference x) v →
      y.Reads h row ordinal w →
      (Compared h row ordinal x .less y ↔ v.Below w) ∧
      (Compared h row ordinal x .equal y ↔ v = w)) ∧
    (∀ a : String, Cell.Below none (some a)) ∧ (∀ v : Cell, ¬ v.Below none) ∧
    ∀ a b : String, (Cell.Below (some a) (some b) ↔ Text.Before a.toList b.toList) ∧
      (Text.Before a.toList b.toList ↔ a.toUTF8.data.toList < b.toUTF8.data.toList) := by
  refine ⟨fun x y hx hy => ⟨fun op query hop => ?_, ?_⟩, fun x y hx hy => ?_,
    fun x y z hx hy hz => ?_, fun x y v w hv hw => ⟨?_, ?_⟩, fun a => trivial, fun v => ?_,
    fun a b => ⟨Iff.rfl, ?_⟩⟩
  · obtain ⟨p, hp⟩ := Comparison.exists_predicate hx hy hop
    refine ⟨⟨query, some p⟩, by rw [ofTree_comparison, hp]; rfl,
      fun hread => ofText_comparison hread hp, ?_⟩
    rw [compared_iff, Comparison.Matches, hp]
    simp [selects]
  · obtain ⟨v, hv⟩ := hx.exists_reads row ordinal
    obtain ⟨w, hw⟩ := hy.exists_reads row ordinal
    have hrelates : (fun op => Compared h row ordinal x op y) = fun op => op.Relates v w :=
      funext fun op => propext (compared_iff_relates hv hw)
    rw [hrelates]
    exact Operator.totally_relates v w
  · obtain ⟨v, hv⟩ := hx.exists_reads row ordinal
    obtain ⟨w, hw⟩ := hy.exists_reads row ordinal
    rw [compared_iff_relates hv hw, compared_iff_relates hw hv]
    exact Iff.rfl
  · obtain ⟨v, hv⟩ := hx.exists_reads row ordinal
    obtain ⟨w, hw⟩ := hy.exists_reads row ordinal
    obtain ⟨u, hu⟩ := hz.exists_reads row ordinal
    rw [compared_iff_relates hv hw, compared_iff_relates hw hu, compared_iff_relates hv hu]
    exact Cell.lt_trans
  · rw [compared_iff_relates hv hw, Cell.below_iff]
    exact Iff.rfl
  · rw [compared_iff_relates hv hw]
    exact Iff.rfl
  · rw [Cell.below_iff]
    rcases v with - | a <;> simp
  · rw [← Text.bytes_toList, ← Text.bytes_toList, Text.bytes_lt_iff, Text.before_iff]

end Filters

/-- A cell behind the last one is less than the empty text and than the place,
and neither is less than it. -/
theorem compared_totally_absent :
    Operand.Resolves (.named ["a"]) (.reference (.name "a")) ∧
      Operand.Resolves (.named ["a"]) (.text "") ∧
      Compared (.named ["a"]) [] 9 (.name "a") .less (.text "") ∧
      ¬ Compared (.named ["a"]) [] 9 (.name "a") .equal (.text "") ∧
      Compared (.named ["a"]) [] 9 .position .greater (.reference (.name "a")) := by
  have hcell : (Header.named ["a"]).resolve (.name "a") = .ok (.cell 0) := rfl
  have hposition : (Header.named ["a"]).resolve .position = .ok .position := rfl
  have hname : Operand.Resolves (.named ["a"]) (.reference (.name "a")) := ⟨.cell 0, hcell⟩
  have hplace : Operand.Resolves (.named ["a"]) (.reference .position) := ⟨.position, hposition⟩
  have habsent : Operand.Reads (.named ["a"]) [] 9 (.reference (.name "a")) none :=
    .reference hcell (.beyond (Nat.zero_le 0))
  have hten : Operand.Reads (.named ["a"]) [] 9 (.reference .position) (some "10") :=
    .reference hposition .position
  obtain ⟨htotal, hflip, -, hvalues, hleast, -, -⟩ := compared_totally (.named ["a"]) [] 9
  have hless := (hvalues _ _ _ _ habsent .text).1.2 (hleast "")
  refine ⟨hname, trivial, hless, ?_, ?_⟩
  · -- it is less, and so it is not equal
    rcases (htotal (.name "a") (.text "") hname trivial).2.one with h | h | h
    · exact h.2.1
    · exact absurd hless h.1
    · exact h.2.1
  · exact (hflip _ _ hname hplace).1 ((hvalues _ _ _ _ habsent hten).1.2 (hleast "10"))

end Selection

end RowQuery
