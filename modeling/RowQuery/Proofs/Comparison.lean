import RowQuery.Pattern.Builtin
import RowQuery.Predicate
import RowQuery.Proofs.Order
/-!
# The table of operators

A comparison is computed in two ways: against a text, with the expression
or the lower case prepared, and against what the row has at a second
reference, with all the work done at the row. `Operator.Relates` is the one
table that both compute (`Operator.holds_iff`, `Operator.against_iff`), so
a text and a column that reads it are interchangeable. The only difference
is when a regular expression fails to be one: a text is refused beforehand,
and a value read from the row relates to nothing.
-/

namespace RowQuery

/-- What a source reads from a row: a cell, absent behind the last one, or
the position of the row counted from one. -/
inductive Source.Reads (row : Row) (ordinal : ℕ) : Source → Cell → Prop
  /-- A cell of the row. -/
  | cell {i : ℕ} {v : Cell} : row[i]? = some v → Reads row ordinal (.cell i) v
  /-- Nothing is behind the last cell. -/
  | beyond {i : ℕ} : row.length ≤ i → Reads row ordinal (.cell i) none
  /-- The position in decimal. -/
  | position : Reads row ordinal .position (some (toString (ordinal + 1)))

/-- A source reads what `read` returns, and nothing else. -/
theorem Source.reads_iff {row : Row} {ordinal : ℕ} {s : Source} {v : Cell} :
    s.Reads row ordinal v ↔ s.read row ordinal = v := by
  constructor
  · rintro (hv | hi | -)
    · simp [Source.read, Row.cell, hv]
    · simp [Source.read, Row.cell, hi]
    · rfl
  · rintro rfl
    cases s with
    | position => exact .position
    | cell i =>
      rcases Nat.lt_or_ge i row.length with hi | hi
      · refine .cell ?_
        simp [Source.read, Row.cell, hi]
      · have hnone : Source.read (.cell i) row ordinal = none := by
          simp [Source.read, Row.cell, hi]
        exact hnone ▸ .beyond hi

/-- Whether a pattern stands in a value. Two absent cells go together, and
an absent one with no text. -/
def Cell.Within : (pattern value : Cell) → Prop
  | none, none => True
  | some p, some v => p.toList <:+: v.toList
  | _, _ => False

/-- `occurs` computes it. -/
theorem Cell.occurs_eq_true {pattern value : Cell} :
    pattern.occurs value = true ↔ pattern.Within value := by
  rcases pattern with - | p <;> rcases value with - | v <;>
    simp [Cell.occurs, Cell.Within, Text.occurs_iff]

namespace Query

section Operators

variable [Pattern.Engine]

/-- **The table of operators**: how a value is related to a pattern, either
of which may be absent. Absent is before all texts. -/
def Operator.Relates (op : Operator) (v p : Cell) : Prop :=
  match op with
  | equal => v = p
  | notEqual => v ≠ p
  | less => v < p
  | greater => p < v
  | lessOrEqual => v < p ∨ v = p
  | greaterOrEqual => p < v ∨ v = p
  | like => p.Within v
  | ilike => Cell.Within (p.map Unicode.lowercase) (v.map Unicode.lowercase)
  | regex =>
    ∃ a b r, v = some a ∧ p = some b ∧ Pattern.whole b = .ok r ∧ Pattern.Engine.occurs r a = true

namespace Operator

/-- A pattern read from a row relates to nothing unless it is one. -/
theorem matchesWhole_eq_true {p v : String} :
    Pattern.matchesWhole p v = true ↔
      ∃ r, Pattern.whole p = .ok r ∧ Pattern.Engine.occurs r v = true := by
  rw [Pattern.matchesWhole]
  cases Pattern.whole p <;> simp

/-- **Between two references the table is computed.** -/
theorem holds_iff (op : Operator) (v p : Cell) : op.holds v p = true ↔ op.Relates v p := by
  cases op with
  | equal => simp [holds, Relates]
  | notEqual => simp [holds, Relates]
  | less => exact Cell.isLT_order
  | greater => exact Cell.isGT_order
  | lessOrEqual => exact Cell.isLE_order
  | greaterOrEqual => exact Cell.isGE_order
  | like => exact Cell.occurs_eq_true
  | ilike => exact Cell.occurs_eq_true
  | regex =>
    -- an absent value or pattern makes both sides false
    rcases v with - | a <;> rcases p with - | b <;> simp [holds, Relates, matchesWhole_eq_true]

/-- Against a text an operator fails only where the text had to be a
regular expression and is none. -/
theorem against_eq_error_iff {op : Operator} {s : String} {e : BindError} :
    op.against s = .error e ↔
      op = regex ∧ ∃ why, Pattern.whole s = .error why ∧ e = .invalidPattern s why := by
  cases op <;> simp [against]
  cases Pattern.whole s <;> simp [eq_comm]

/-- **Against a text the same table is computed**, the text standing for a
pattern that is present. -/
theorem against_iff {op : Operator} {s : String} {f : Cell → Bool} (hf : op.against s = .ok f)
    (v : Cell) : f v = true ↔ op.Relates v (some s) := by
  cases op <;> simp only [against, Except.ok.injEq] at hf
  case equal => subst hf; simp [Relates]
  case notEqual => subst hf; simp [Relates]
  case less => subst hf; exact Cell.isLT_order
  case greater => subst hf; exact Cell.isGT_order
  case lessOrEqual => subst hf; exact Cell.isLE_order
  case greaterOrEqual => subst hf; exact Cell.isGE_order
  case like => subst hf; exact Cell.occurs_eq_true
  case ilike => subst hf; exact Cell.occurs_eq_true
  case regex =>
    cases hw : Pattern.whole s with
    | error why => rw [hw] at hf; cases hf
    | ok r =>
      rw [hw] at hf
      obtain rfl := Except.ok.inj hf
      rcases v with - | a <;> simp [Relates, hw]

/-- So a text and a column that reads it are interchangeable. -/
theorem against_eq_holds {op : Operator} {s : String} {f : Cell → Bool}
    (hf : op.against s = .ok f) (v : Cell) : f v = op.holds v (some s) := by
  rw [Bool.eq_iff_iff, against_iff hf, holds_iff]

/-- A text that is no regular expression relates to nothing when it is
read from a row. -/
theorem holds_eq_false_of_against {op : Operator} {s : String} {e : BindError}
    (he : op.against s = .error e) (v : Cell) : op.holds v (some s) = false := by
  obtain ⟨rfl, why, hw, -⟩ := against_eq_error_iff.1 he
  rw [← Bool.not_eq_true, holds_iff]
  rintro ⟨a, b, r, -, hb, hr, -⟩
  obtain rfl := Option.some.inj hb
  rw [hw] at hr
  cases hr

end Operator

end Operators

namespace Comparison

section Predicates

variable [Pattern.Engine]
variable {h : Header} {x y : Reference} {src pat : Source} {op : Operator}

/-- A comparison of two references reads both from the row. -/
theorem predicate_reference (hx : h.resolve x = .ok src) (hy : h.resolve y = .ok pat) :
    Comparison.predicate h ⟨x, op, .reference y⟩ =
      .ok fun row ordinal => op.holds (src.read row ordinal) (pat.read row ordinal) := by
  simp only [predicate, hx, hy, Except.map]

/-- A comparison with a text reads one. -/
theorem predicate_text (hx : h.resolve x = .ok src) (s : String) :
    Comparison.predicate h ⟨x, op, .text s⟩ =
      (op.against s).map fun f row ordinal => f (src.read row ordinal) := by
  simp only [predicate, hx]

/-- Why the right side of a comparison keeps it from having a predicate: it
is a reference that does not resolve, or a text that had to be a regular
expression. -/
def OperandError (h : Header) (c : Comparison) (e : BindError) : Prop :=
  match c.operand with
  | .reference y => h.resolve y = .error e
  | .text s => c.operator = .regex ∧ ∃ why, Pattern.whole s = .error why ∧ e = .invalidPattern s why

/-- **The left side is looked at first**: its error is the error of the
comparison, whatever stands on the right. -/
theorem predicate_eq_error_iff {c : Comparison} {e : BindError} :
    c.predicate h = .error e ↔
      h.resolve c.subject = .error e ∨
        (∃ s, h.resolve c.subject = .ok s) ∧ c.OperandError h e := by
  obtain ⟨x, op, operand⟩ := c
  cases hx : h.resolve x with
  | error e' => simp [predicate, hx]
  | ok s =>
    cases operand with
    | reference y => simp [predicate, OperandError, hx, Text.map_eq_error_iff]
    | text t =>
      rw [predicate_text hx, Text.map_eq_error_iff, Operator.against_eq_error_iff]
      simp [OperandError]

/-- **Both ways of comparing compute the table of operators.** Take a left
side that resolves. Against a right side that resolves, the predicate is
true of a row exactly if the two values read are related. Against a text it
exists unless the text had to be a regular expression and is none; it is
then true exactly of the values that are related to the text, and so agrees
with a right side wherever that reads the text. A text that was refused
relates to no value when it is read from a row. -/
theorem comparison_table (h : Header) (x : Reference) (src : Source) (op : Operator)
    (hx : h.resolve x = .ok src) :
    (∀ y pat, h.resolve y = .ok pat →
      ∃ q, Comparison.predicate h ⟨x, op, .reference y⟩ = .ok q ∧
        ∀ row ordinal v p, src.Reads row ordinal v → pat.Reads row ordinal p →
          (q row ordinal = true ↔ op.Relates v p)) ∧
    ∀ s,
      (∀ e, Comparison.predicate h ⟨x, op, .text s⟩ = .error e ↔
        op = .regex ∧ ∃ why, Pattern.whole s = .error why ∧ e = .invalidPattern s why) ∧
      (∀ p, Comparison.predicate h ⟨x, op, .text s⟩ = .ok p →
        ∀ row ordinal v, src.Reads row ordinal v →
          (p row ordinal = true ↔ op.Relates v (some s))) ∧
      ∀ y pat q row ordinal, h.resolve y = .ok pat →
        Comparison.predicate h ⟨x, op, .reference y⟩ = .ok q →
        pat.Reads row ordinal (some s) →
          (∀ p, Comparison.predicate h ⟨x, op, .text s⟩ = .ok p →
            p row ordinal = q row ordinal) ∧
          ∀ e, Comparison.predicate h ⟨x, op, .text s⟩ = .error e → q row ordinal = false := by
  refine ⟨fun y pat hy => ?_, fun s => ⟨fun e => ?_, fun p hp row ordinal v hv => ?_, ?_⟩⟩
  · refine ⟨_, predicate_reference hx hy, fun row ordinal v p hv hp => ?_⟩
    rw [Source.reads_iff.1 hv, Source.reads_iff.1 hp, Operator.holds_iff]
  · rw [predicate_text hx, Text.map_eq_error_iff, Operator.against_eq_error_iff]
  · rw [predicate_text hx] at hp
    obtain ⟨f, hf, rfl⟩ := Text.exists_of_map_eq_ok hp
    obtain rfl := Source.reads_iff.1 hv
    exact Operator.against_iff hf _
  · intro y pat q row ordinal hy hq hs
    rw [predicate_reference hx hy] at hq
    obtain rfl := Except.ok.inj hq
    -- with the right side read, both predicates look at the left one only
    simp only [Source.reads_iff.1 hs]
    constructor
    · intro p hp
      rw [predicate_text hx] at hp
      obtain ⟨f, hf, rfl⟩ := Text.exists_of_map_eq_ok hp
      exact Operator.against_eq_holds hf _
    · intro e he
      rw [predicate_text hx, Text.map_eq_error_iff] at he
      exact Operator.holds_eq_false_of_against he _

end Predicates

/-- The table at two columns that are found by name and by position. -/
theorem comparison_table_named :
    (Header.named ["a", "b"]).resolve (.name "b") = .ok (.cell 1) ∧
      ∃ q, Comparison.predicate (.named ["a", "b"]) ⟨.name "b", .regex, .reference .position⟩ =
          .ok q ∧
        ∀ row ordinal v p, Source.Reads row ordinal (.cell 1) v →
          Source.Reads row ordinal .position p →
            (q row ordinal = true ↔ Operator.regex.Relates v p) :=
  ⟨rfl, (comparison_table _ _ _ .regex rfl).1 .position .position rfl⟩

end Comparison

end Query

end RowQuery
