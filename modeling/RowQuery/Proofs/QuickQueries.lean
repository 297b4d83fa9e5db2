import Mathlib
import RowQuery.Proofs.Naming
import RowQuery.Proofs.QuickFilters
/-!
# Quick filters as queries

What a quick filter with a pattern asks of its column can be asked by a
comparison of the column, by its position, with the pattern. Quick filters
and the query that joins their comparisons by AND go separate ways to the
rows: the one tests its patterns, the other is scanned, read and bound. Both
come down to the same list of conditions. The query is the conjunction of
their comparisons (`Condition.read_wording`), which is tested as they are
(`Condition.predicate_conjunction`), and a row passes the filters where it
meets them (`QuickFilters.selects_iff_conditions`). So both select the same rows
(`QuickFilters.ofText_wording`).
-/

namespace RowQuery

open Query (IsPhrase Tree)

/-- The operator that asks what a quick filter does. -/
def QuickTest.operator : QuickTest → Query.Operator
  | equals => .equal
  | contains => .like
  | differs => .notEqual

/-- **A condition on a column**: what a quick filter with a pattern asks. -/
structure Condition where
  /-- The index of the column. -/
  column : ℕ
  /-- How the cell is tested. -/
  test : QuickTest
  /-- The pattern, which is present. -/
  text : String

namespace Condition

/-- The condition as a query writes it. -/
def wording (c : Condition) : String :=
  "$" ++ Text.decimal (c.column + 1) ++ " " ++ c.test.operator.symbol ++ " " ++
    Text.quoted '\'' c.text

/-- The comparison that it is. -/
def comparison (c : Condition) : Query.Comparison :=
  ⟨.index (c.column + 1), c.test.operator, .text c.text⟩

/-- What it asks of a row. -/
def predicate (c : Condition) : Predicate :=
  fun row _ => c.test.passes (some c.text) (row.cell c.column)

/-- The number of the column can be written in a query. -/
def InBounds (c : Condition) : Prop :=
  c.column + 1 < 2 ^ 64

variable {c : Condition} {cs : List Condition}

/-! ## Reading -/

/-- **A condition is written as its comparison.** -/
theorem InBounds.isPhrase (hc : c.InBounds) :
    IsPhrase c.wording.toList (.term (.comparison c.comparison)) := by
  have hwell : c.comparison.WellFormed := ⟨⟨Nat.le_add_left 1 c.column, hc⟩, trivial⟩
  have htext : c.wording.toList = Query.spaced (fun _ => [' ']) c.comparison.tokens := by
    simp [wording, comparison, Query.Comparison.tokens, Query.spaced, Query.Token.write,
      Query.Reference.token, Query.Operand.token, Text.quoted]
  exact htext ▸ hwell.isPhrase

/-- The conditions that hold together, as a query has them. -/
def conjunction (cs : List Condition) : Query.Conjunction :=
  cs.map fun c => .comparison c.comparison

/-- **Conditions that are joined are written as their conjunction.** The
induction is on the conditions, of which there is one at least. -/
theorem isPhrase_intercalate (hcs : ∀ c ∈ cs, c.InBounds) (hne : cs ≠ []) :
    IsPhrase (" AND ".intercalate (cs.map wording)).toList (.terms (conjunction cs)) := by
  induction cs with
  | nil => exact absurd rfl hne
  | cons c cs ih =>
    obtain ⟨hc, hrest⟩ := List.forall_mem_cons.1 hcs
    cases cs with
    | nil =>
      rw [List.map_singleton, String.intercalate_singleton]
      exact hc.isPhrase.terms
    | cons d cs =>
      have hjoined := hc.isPhrase.and (ih hrest (List.cons_ne_nil d cs))
      rw [List.map_cons, List.map_cons, String.intercalate_cons_cons]
      simpa [conjunction] using hjoined

/-- So they are read as that. -/
theorem read_wording (hcs : ∀ c ∈ cs, c.InBounds) (hne : cs ≠ []) :
    Query.read (" AND ".intercalate (cs.map wording)) = .ok [conjunction cs] :=
  (isPhrase_intercalate hcs hne).query.read_eq rfl

/-! ## Testing -/

section Testing

variable [Pattern.Engine]

/-- **A condition is tested as its comparison**, under any header. -/
theorem predicate_comparison (c : Condition) (h : Header) :
    c.comparison.predicate h = .ok c.predicate := by
  obtain ⟨column, test, text⟩ := c
  have hresolve : h.resolve (.index (column + 1)) = .ok (.cell column) := rfl
  rw [comparison, Query.Comparison.predicate_text hresolve]
  cases test with
  | contains => rfl
  | equals | differs =>
    -- a quick filter has its pattern on the left, and a comparison on the right
    refine congrArg Except.ok (funext fun row => funext fun _ => ?_)
    simp [predicate, QuickTest.passes, Source.read, eq_comm]

theorem termPredicates_conjunction (cs : List Condition) (h : Header) :
    Query.termPredicates h (conjunction cs) = .ok (cs.map predicate) := by
  induction cs with
  | nil => rfl
  | cons c cs ih =>
    rw [conjunction, List.map_cons, ← conjunction, Query.termPredicates_cons, Query.Term.predicate,
      predicate_comparison, ih]
    rfl

/-- **Conditions are tested together** as their conjunction. -/
theorem predicate_conjunction (cs : List Condition) (h : Header) :
    Tree.predicate h [conjunction cs] = .ok (Query.allOf (cs.map predicate)) := by
  rw [Tree.predicate, Query.predicates_cons, termPredicates_conjunction]
  rfl

/-- **A row is selected where it meets all conditions.** If there are none, the
text is empty and selects every row. -/
theorem ofText_intercalate (hcs : ∀ c ∈ cs, c.InBounds) (h : Header) :
    ∃ s, Selection.ofText (" AND ".intercalate (cs.map wording)) h = .ok s ∧
      ∀ row ordinal, s.selects row ordinal = true ↔ ∀ c ∈ cs, c.predicate row ordinal = true := by
  by_cases hne : cs = []
  · subst hne
    exact ⟨.everything, rfl, by simp [Selection.selects, Selection.everything]⟩
  · rw [Query.ofText_of_read (read_wording hcs hne), predicate_conjunction]
    refine ⟨_, rfl, fun row ordinal => ?_⟩
    rw [Selection.selects, Query.allOf_eq_true, List.forall_mem_map]

end Testing

end Condition

namespace QuickFilters

variable {fs : QuickFilters} {columns : List ℕ} {c : Condition}

/-- The conditions of the columns that have a filter with a pattern. -/
def conditions (fs : QuickFilters) (columns : List ℕ) : List Condition :=
  columns.filterMap fun column =>
    (fs.get? column).bind fun f => f.pattern.map fun text => ⟨column, f.test, text⟩

/-- The query that asks what quick filters do: the conditions of the columns,
joined by AND. -/
def wording (fs : QuickFilters) (columns : List ℕ) : String :=
  " AND ".intercalate ((fs.conditions columns).map Condition.wording)

/-- A condition is that of a filter of one of the columns. -/
theorem mem_conditions_iff : c ∈ fs.conditions columns ↔
    c.column ∈ columns ∧ fs.get? c.column = some ⟨c.test, some c.text⟩ := by
  obtain ⟨column, test, text⟩ := c
  simp only [conditions, List.mem_filterMap, Option.bind_eq_some_iff, Option.map_eq_some_iff,
    Condition.mk.injEq]
  constructor
  · rintro ⟨_, hmem, ⟨_, _⟩, hf, _, rfl, rfl, rfl, rfl⟩
    exact ⟨hmem, hf⟩
  · rintro ⟨hmem, hf⟩
    exact ⟨column, hmem, _, hf, text, rfl, rfl, rfl, rfl⟩

/-- **A row passes the filters where it meets their conditions**, if they all
have patterns and none of their columns is left out. -/
theorem selects_iff_conditions (hfs : fs.Distinct)
    (hpattern : ∀ column f, fs.get? column = some f → f.pattern ≠ Option.none)
    (hcolumns : ∀ column f, fs.get? column = some f → column ∈ columns) (row : Row) (ordinal : ℕ) :
    fs.selects row = true ↔ ∀ c ∈ fs.conditions columns, c.predicate row ordinal = true := by
  rw [hfs.selects_iff]
  constructor
  · intro hall c hc
    exact QuickTest.passes_iff.2 (hall _ _ (mem_conditions_iff.1 hc).2)
  · rintro hall column ⟨test, pattern⟩ hf
    obtain ⟨text, rfl⟩ := Option.ne_none_iff_exists'.1 (hpattern column _ hf)
    have hmem : ⟨column, test, text⟩ ∈ fs.conditions columns :=
      mem_conditions_iff.2 ⟨hcolumns column _ hf, hf⟩
    exact QuickTest.passes_iff.1 (hall _ hmem)

/-- **Quick filters ask what a query does.** Take the filters after any
changes, all of them with a pattern and on columns whose numbers can be
written, and any list of columns in which none of theirs is missing. The text
that joins the conditions of the columns by AND is a query under any header,
usable or not, and is blank if there are no filters. From any rows, of any
lengths and with any cells absent, it selects the rows that pass the filters,
at the same indices. -/
theorem ofText_wording [Pattern.Engine] (changes : List Change) (columns : List ℕ)
    (hpattern : ∀ column f, (after changes).get? column = some f → f.pattern ≠ Option.none)
    (hbound : ∀ column f, (after changes).get? column = some f → column < 2 ^ 64 - 1)
    (hcolumns : ∀ column f, (after changes).get? column = some f → column ∈ columns)
    (h : Header) :
    ∃ s, Selection.ofText ((after changes).wording columns) h = .ok s ∧
      ∀ rows, s.selected rows = (after changes).selected rows ∧
        s.apply rows = (after changes).apply rows := by
  have hinBounds : ∀ c ∈ (after changes).conditions columns, c.InBounds := fun c hc => by
    have hlt := hbound _ _ (mem_conditions_iff.1 hc).2
    rw [Condition.InBounds]
    omega
  obtain ⟨s, hs, hselects⟩ := Condition.ofText_intercalate hinBounds h
  have hrow : ∀ row ordinal, s.selects row ordinal = (after changes).selects row := by
    intro row ordinal
    rw [Bool.eq_iff_iff, hselects,
      selects_iff_conditions (distinct_after changes) hpattern hcolumns row ordinal]
  have hselected : ∀ rows, s.selected rows = (after changes).selected rows := fun rows =>
    List.filter_congr fun a _ => hrow a.1 a.2
  refine ⟨s, hs, fun rows => ⟨hselected rows, ?_⟩⟩
  rw [Selection.apply, apply, hselected]

/-- Filters whose patterns are a backslash and a text with a quote. A third
one without a pattern was taken away. -/
theorem ofText_wording_escaped :
    let changes : List Change := [.set 7 ⟨.equals, Option.none⟩, .set 2 ⟨.contains, some "it's"⟩,
      .remove 7, .set 0 ⟨.differs, some "\\"⟩]
    (∀ column f, (after changes).get? column = some f →
      f.pattern ≠ Option.none ∧ column < 2 ^ 64 - 1 ∧ column ∈ [0, 2]) ∧
    ∃ s, Selection.ofText "$1 <> '\\\\' AND $3 LIKE 'it\\'s'" (.ofNames []) = .ok s ∧
      ∀ rows, s.selected rows = (after changes).selected rows ∧
        s.apply rows = (after changes).apply rows := by
  intro changes
  have hfilters : ∀ column f, (after changes).get? column = some f →
      f.pattern ≠ Option.none ∧ column < 2 ^ 64 - 1 ∧ column ∈ [0, 2] := by
    intro column f hf
    have hmem : (column, f) ∈ [(0, ⟨.differs, some "\\"⟩), (2, ⟨.contains, some "it's"⟩)] :=
      (distinct_after changes).mem_entries_iff.2 hf
    simp only [List.mem_cons, List.not_mem_nil, or_false, Prod.mk.injEq] at hmem
    rcases hmem with ⟨rfl, rfl⟩ | ⟨rfl, rfl⟩ <;> decide
  have htext : (after changes).wording [0, 2] = "$1 <> '\\\\' AND $3 LIKE 'it\\'s'" := by
    decide
  rw [← htext]
  refine ⟨hfilters, ofText_wording changes [0, 2] ?_ ?_ ?_ (.ofNames [])⟩
  · exact fun column f hf => (hfilters column f hf).1
  · exact fun column f hf => (hfilters column f hf).2.1
  · exact fun column f hf => (hfilters column f hf).2.2

end QuickFilters

end RowQuery
