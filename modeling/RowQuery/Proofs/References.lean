import RowQuery.Selection
import RowQuery.Proofs.Truth
/-!
# What a query refers to

A tree looks at a row through its references and in no other way. So it can
be followed in two runs at once: two trees that differ in their references
only, each bound under a header of its own, and tested at a row and an index
of its own. If at every reference the two runs fail with one error or read
the same value, then the trees fail with one error or hold alike
(`Tree.alike`). `Alike` carries the induction, since both ways of joining
results keep it. With one tree and one header in both runs this says that a
selection depends on nothing but the cells that are referred to
(`Selection.selects_congr`).
-/

namespace RowQuery

/-! ## Results that are alike -/

/-- **Results that are alike**: both are one error, or values that are
related. -/
inductive Alike {α β : Type} (related : α → β → Prop) :
    Except BindError α → Except BindError β → Prop
  /-- The same error. -/
  | error {e : BindError} : Alike related (.error e) (.error e)
  /-- Two values. -/
  | ok {a : α} {b : β} : related a b → Alike related (.ok a) (.ok b)

namespace Alike

variable {α β γ α' β' γ' : Type} {related : α → α' → Prop} {related' : β → β' → Prop}
variable {r : Except BindError α} {r' : Except BindError α'}

/-- A result is like itself, if its value is. -/
theorem refl {related : α → α → Prop} {r : Except BindError α}
    (hr : ∀ a, r = .ok a → related a a) : Alike related r r := by
  cases r with
  | error e => exact .error
  | ok a => exact .ok (hr a rfl)

/-- What is made of the values alone. -/
theorem map {f : α → β} {f' : α' → β'} (h : Alike related r r')
    (hf : ∀ a a', related a a' → related' (f a) (f' a')) :
    Alike related' (r.map f) (r'.map f') := by
  cases h with
  | error => exact .error
  | ok ha => exact .ok (hf _ _ ha)

/-- What is made of the values and of those of results behind them. -/
theorem seq {related'' : γ → γ' → Prop} {s : Except BindError β} {s' : Except BindError β'}
    {f : α → β → γ} {f' : α' → β' → γ'} (h : Alike related r r') (hs : Alike related' s s')
    (hf : ∀ a a' b b', related a a' → related' b b' → related'' (f a b) (f' a' b')) :
    Alike related'' (r.bind fun a => s.map (f a)) (r'.bind fun a' => s'.map (f' a')) := by
  cases h with
  | error => exact .error
  | ok ha => exact hs.map fun b b' hb => hf _ _ b b' ha hb

/-- What follows from the relation follows for the results. -/
theorem mono {related' : α → α' → Prop} (h : Alike related r r')
    (hr : ∀ a a', related a a' → related' a a') : Alike related' r r' := by
  cases h with
  | error => exact .error
  | ok ha => exact .ok (hr _ _ ha)

/-- Results are equal if values that are related are. -/
theorem eq {related : α → α → Prop} {s s' : Except BindError α} (h : Alike related s s')
    (heq : ∀ a b, related a b → a = b) : s = s' := by
  cases h with
  | error => rfl
  | ok ha => rw [heq _ _ ha]

end Alike

/-- Which row at which index is tested along with which. -/
abbrev Pairing := Row → ℕ → Row → ℕ → Prop

namespace Pairing

/-- Each row is tested along with itself. -/
def self : Pairing := fun row ordinal row' ordinal' => row = row' ∧ ordinal = ordinal'

/-- There is one pair only. -/
def single (row : Row) (ordinal : ℕ) (row' : Row) (ordinal' : ℕ) : Pairing :=
  fun a m b n => a = row ∧ m = ordinal ∧ b = row' ∧ n = ordinal'

end Pairing

/-- Two sources read the same from the rows of a pair. -/
def Source.Agree (P : Pairing) (s s' : Source) : Prop :=
  ∀ row ordinal row' ordinal', P row ordinal row' ordinal' →
    s.read row ordinal = s'.read row' ordinal'

/-- Two predicates say the same of them. -/
def Predicate.Agree (P : Pairing) (p p' : Predicate) : Prop :=
  ∀ row ordinal row' ordinal', P row ordinal row' ordinal' → p row ordinal = p' row' ordinal'

namespace Query

/-! ## The references of a tree -/

/-- The references on the right side of a comparison. -/
def Operand.references : Operand → List Reference
  | .text _ => []
  | .reference r => [r]

/-- The references of a comparison. -/
def Comparison.references (c : Comparison) : List Reference :=
  c.subject :: c.operand.references

/-- The references of a tree, in the order of the text. -/
def Tree.references (t : Tree) : List Reference :=
  t.comparisons.flatMap Comparison.references

/-- Replaces the reference on the right side of a comparison. -/
def Operand.mapReferences (f : Reference → Reference) : Operand → Operand
  | .text s => .text s
  | .reference r => .reference (f r)

/-- Replaces the references of a comparison. -/
def Comparison.mapReferences (f : Reference → Reference) (c : Comparison) : Comparison :=
  ⟨f c.subject, c.operator, c.operand.mapReferences f⟩

mutual

/-- Replaces the references of a term. -/
def Term.mapReferences (f : Reference → Reference) : Term → Term
  | .comparison c => .comparison (c.mapReferences f)
  | .negation t => .negation (t.mapReferences f)
  | .group alternatives => .group (mapReferences f alternatives)

/-- Replaces those of terms that hold together. -/
def mapTermReferences (f : Reference → Reference) : List Term → List Term
  | [] => []
  | t :: rest => t.mapReferences f :: mapTermReferences f rest

/-- Replaces those of alternatives. -/
def mapReferences (f : Reference → Reference) : List (List Term) → List (List Term)
  | [] => []
  | terms :: rest => mapTermReferences f terms :: mapReferences f rest

end

/-- Replaces the references of a tree, and nothing else of it. -/
def Tree.mapReferences (f : Reference → Reference) (t : Tree) : Tree :=
  Query.mapReferences f t

mutual

/-- A term whose references stay is the same term. -/
theorem Term.mapReferences_id (t : Term) : t.mapReferences id = t :=
  match t with
  | .comparison ⟨x, op, .text s⟩ => rfl
  | .comparison ⟨x, op, .reference r⟩ => rfl
  | .negation t => by rw [Term.mapReferences, Term.mapReferences_id t]
  | .group alternatives => by rw [Term.mapReferences, mapReferences_id alternatives]

theorem mapTermReferences_id (terms : List Term) : mapTermReferences id terms = terms :=
  match terms with
  | [] => rfl
  | t :: rest => by rw [mapTermReferences, Term.mapReferences_id t, mapTermReferences_id rest]

theorem mapReferences_id (alternatives : List (List Term)) :
    mapReferences id alternatives = alternatives :=
  match alternatives with
  | [] => rfl
  | terms :: rest => by
    rw [mapReferences, mapTermReferences_id terms, mapReferences_id rest]

end

/-- And so is a tree. -/
theorem Tree.mapReferences_id (t : Tree) : t.mapReferences id = t :=
  Query.mapReferences_id t

theorem Tree.mem_references {t : Tree} {r : Reference} :
    r ∈ t.references ↔ ∃ c ∈ t.comparisons, r ∈ c.references :=
  List.mem_flatMap

/-! ## Two runs -/

section Runs

variable {P : Pairing}

/-- Predicates that agree one by one agree where one of them has to hold. -/
theorem agree_anyOf {ps ps' : List Predicate} (hps : List.Forall₂ (Predicate.Agree P) ps ps') :
    Predicate.Agree P (anyOf ps) (anyOf ps') := by
  intro row ordinal row' ordinal' hrow
  rw [Bool.eq_iff_iff, anyOf_eq_true, anyOf_eq_true]
  induction hps with
  | nil => simp
  | cons hp _ ih => simp only [List.exists_mem_cons_iff, hp _ _ _ _ hrow, ih]

/-- And where all of them have to. -/
theorem agree_allOf {ps ps' : List Predicate} (hps : List.Forall₂ (Predicate.Agree P) ps ps') :
    Predicate.Agree P (allOf ps) (allOf ps') := by
  intro row ordinal row' ordinal' hrow
  rw [Bool.eq_iff_iff, allOf_eq_true, allOf_eq_true]
  induction hps with
  | nil => simp
  | cons hp _ ih => simp only [List.forall_mem_cons, hp _ _ _ _ hrow, ih]

variable [Pattern.Engine] {f : Reference → Reference} {h h' : Header}

/-- **Comparisons are alike** if their references are. -/
theorem Comparison.alike {c : Comparison}
    (hc : ∀ r ∈ c.references, Alike (Source.Agree P) (h.resolve r) (h'.resolve (f r))) :
    Alike (Predicate.Agree P) (c.predicate h) ((c.mapReferences f).predicate h') := by
  obtain ⟨x, op, operand⟩ := c
  have hx := hc x List.mem_cons_self
  simp only [mapReferences, predicate]
  generalize h.resolve x = subject at hx ⊢
  generalize h'.resolve (f x) = subject' at hx ⊢
  cases hx with
  | error => exact .error
  | ok hsubject =>
    cases operand with
    | text s =>
      simp only [Operand.mapReferences]
      cases op.against s with
      | error e => exact .error
      | ok holds =>
        exact .ok fun row ordinal row' ordinal' hrow =>
          congrArg holds (hsubject row ordinal row' ordinal' hrow)
    | reference y =>
      have hy := hc y (by simp [references, Operand.references])
      refine hy.map fun pattern pattern' hpattern row ordinal row' ordinal' hrow => ?_
      rw [hsubject row ordinal row' ordinal' hrow, hpattern row ordinal row' ordinal' hrow]

/-- Comparisons that are alike under the two headers. -/
def ComparedAlike (P : Pairing) (f : Reference → Reference) (h h' : Header)
    (cs : List Comparison) : Prop :=
  ∀ c ∈ cs, Alike (Predicate.Agree P) (c.predicate h) ((c.mapReferences f).predicate h')

theorem comparedAlike_append {cs ds : List Comparison} :
    ComparedAlike P f h h' (cs ++ ds) ↔ ComparedAlike P f h h' cs ∧ ComparedAlike P f h h' ds :=
  List.forall_mem_append

mutual

/-- **Terms are alike** if their comparisons are. The induction is on the
term, through the lists of a group. -/
theorem Term.alike (t : Term) (ht : ComparedAlike P f h h' t.comparisons) :
    Alike (Predicate.Agree P) (t.predicate h) ((t.mapReferences f).predicate h') :=
  match t with
  | .comparison c => ht c List.mem_cons_self
  | .negation t => by
    refine (Term.alike t ht).map fun p p' hp row ordinal row' ordinal' hrow => ?_
    rw [hp row ordinal row' ordinal' hrow]
  | .group alternatives => (alike_predicates alternatives ht).map fun _ _ => agree_anyOf

/-- So are terms that hold together, one by one. -/
theorem alike_termPredicates (terms : List Term)
    (ht : ComparedAlike P f h h' (termComparisons terms)) :
    Alike (List.Forall₂ (Predicate.Agree P)) (termPredicates h terms)
      (termPredicates h' (mapTermReferences f terms)) :=
  match terms with
  | [] => .ok .nil
  | t :: rest => by
    obtain ⟨hhead, htail⟩ := comparedAlike_append.1 ht
    rw [mapTermReferences, termPredicates_cons, termPredicates_cons]
    exact (Term.alike t hhead).seq (alike_termPredicates rest htail) fun _ _ _ _ => .cons

/-- And alternatives. -/
theorem alike_predicates (alternatives : List (List Term))
    (ht : ComparedAlike P f h h' (comparisons alternatives)) :
    Alike (List.Forall₂ (Predicate.Agree P)) (predicates h alternatives)
      (predicates h' (mapReferences f alternatives)) :=
  match alternatives with
  | [] => .ok .nil
  | terms :: rest => by
    obtain ⟨hhead, htail⟩ := comparedAlike_append.1 ht
    rw [mapReferences, predicates_cons, predicates_cons]
    exact (alike_termPredicates terms hhead).seq (alike_predicates rest htail)
      fun _ _ _ _ hps hqs => .cons (agree_allOf hps) hqs

end

/-- **Trees are alike if their references are.** -/
theorem Tree.alike {t : Tree}
    (ht : ∀ r ∈ t.references, Alike (Source.Agree P) (h.resolve r) (h'.resolve (f r))) :
    Alike (Predicate.Agree P) (t.predicate h) ((t.mapReferences f).predicate h') := by
  have hcompared : ComparedAlike P f h h' t.comparisons := fun c hc =>
    c.alike fun r hr => ht r (Tree.mem_references.2 ⟨c, hc, hr⟩)
  exact (alike_predicates t hcompared).map fun _ _ => agree_anyOf

/-- **Trees with the same sources have one predicate**, or one error. -/
theorem Tree.predicate_eq_of_resolve {t : Tree}
    (ht : ∀ r ∈ t.references, h.resolve r = h'.resolve (f r)) :
    t.predicate h = (t.mapReferences f).predicate h' := by
  have halike : Alike (Predicate.Agree .self) (t.predicate h)
      ((t.mapReferences f).predicate h') := by
    refine Tree.alike fun r hr => ?_
    rw [ht r hr]
    refine .refl fun source _ => ?_
    rintro _ _ _ _ ⟨rfl, rfl⟩
    rfl
  exact halike.eq fun p p' hp =>
    funext fun row => funext fun ordinal => hp row ordinal row ordinal ⟨rfl, rfl⟩

end Runs

/-- **A tree whose references resolve** has no error but that of a text that
should be a pattern and is none. -/
theorem Tree.invalidPattern_of_error [Pattern.Engine] {t : Tree} {h : Header} {e : BindError}
    (ht : ∀ r ∈ t.references, ∃ source, h.resolve r = .ok source) (he : t.predicate h = .error e) :
    ∃ s why, Pattern.whole s = .error why ∧ e = .invalidPattern s why := by
  obtain ⟨before, c, after, hcs, -, hc⟩ := (t.binds.eq_error_iff e).1 he
  have hmem : c ∈ t.comparisons := by rw [hcs]; simp
  have hresolves : ∀ r ∈ c.references, ∃ source, h.resolve r = .ok source := fun r hr =>
    ht r (Tree.mem_references.2 ⟨c, hmem, hr⟩)
  rcases Comparison.predicate_eq_error_iff.1 hc with hsubject | ⟨-, hoperand⟩
  · obtain ⟨source, hsource⟩ := hresolves c.subject List.mem_cons_self
    rw [hsource] at hsubject
    cases hsubject
  · obtain ⟨x, op, operand⟩ := c
    cases operand with
    | text s =>
      obtain ⟨-, why, hwhy, rfl⟩ := hoperand
      exact ⟨s, why, hwhy, rfl⟩
    | reference y =>
      obtain ⟨source, hsource⟩ := hresolves y (by simp [Comparison.references, Operand.references])
      have hunresolved : h.resolve y = .error e := hoperand
      rw [hsource] at hunresolved
      cases hunresolved

end Query

/-! ## What a selection depends on -/

/-- The position of the row is read at its own reference, and at the column
of number zero. -/
theorem Header.resolve_eq_position_iff {h : Header} {r : Query.Reference} :
    h.resolve r = .ok .position ↔ r = .position ∨ r = .index 0 := by
  rcases r with s | s | (_ | n) | _
  case name | quotedName => cases hs : h.indexOf s <;> simp [resolve, hs, Except.map]
  all_goals simp [resolve]

namespace Row

variable {row : Row} {i j : ℕ}

/-- The other cells stay when one is replaced. -/
theorem cell_set_of_ne (h : i ≠ j) (v : Cell) : cell (row.set i v) j = row.cell j := by
  rw [cell, cell, List.getElem?_set_ne h]

/-- Those of a row stay when it goes on. -/
theorem cell_append_of_lt (h : i < row.length) (more : Row) :
    cell (row ++ more) i = row.cell i := by
  rw [cell, cell, List.getElem?_append_left h]

/-- All of them stay when it goes on with absent ones. -/
theorem cell_padded (row : Row) (n i : ℕ) :
    cell (row ++ List.replicate n none) i = row.cell i := by
  rcases Nat.lt_or_ge i row.length with hlt | hge
  · exact cell_append_of_lt hlt _
  · rw [cell, cell, List.getElem?_append_right hge, List.getElem?_eq_none hge,
      List.getElem?_replicate]
    split <;> rfl

end Row

namespace Selection

/-- Two selections select the same of the rows of a pair. -/
def Agree (P : Pairing) (s s' : Selection) : Prop :=
  ∀ row ordinal row' ordinal', P row ordinal row' ordinal' →
    s.selects row ordinal = s'.selects row' ordinal'

section Trees

variable [Pattern.Engine] {query : String} {t : Query.Tree} {h h' : Header} {s : Selection}

/-- **Selections by one tree are alike** if its references are. -/
theorem alike_ofTree {P : Pairing}
    (ht : ∀ r ∈ t.references, Alike (Source.Agree P) (h.resolve r) (h'.resolve r)) :
    Alike (Agree P) (ofTree query t h) (ofTree query t h') := by
  have halike := Query.Tree.alike (f := id) ht
  rw [Query.Tree.mapReferences_id] at halike
  exact halike.map fun _ _ hp => hp

/-- Two rows that have the same cells wherever the tree refers to one. -/
def SameCells (h : Header) (t : Query.Tree) (row row' : Row) : Prop :=
  ∀ r ∈ t.references, ∀ i, h.resolve r = .ok (.cell i) → row.cell i = row'.cell i

/-- Two places of rows that the tree cannot tell apart: they are one, or the
tree does not refer to the place. -/
def SamePlace (t : Query.Tree) (ordinal ordinal' : ℕ) : Prop :=
  ordinal = ordinal' ∨ (.position ∉ t.references ∧ .index 0 ∉ t.references)

/-- **The cells that are referred to decide**, and the place if that is. -/
theorem selects_eq {row row' : Row} {ordinal ordinal' : ℕ} (hs : ofTree query t h = .ok s)
    (hcells : SameCells h t row row') (hplace : SamePlace t ordinal ordinal') :
    s.selects row ordinal = s.selects row' ordinal' := by
  have halike : Alike (Agree (.single row ordinal row' ordinal')) (ofTree query t h)
      (ofTree query t h) := by
    refine alike_ofTree fun r hr => .refl fun source hsource => ?_
    rintro _ _ _ _ ⟨rfl, rfl, rfl, rfl⟩
    cases source with
    | cell i => exact hcells r hr i hsource
    | position =>
      rcases hplace with rfl | ⟨hposition, hzero⟩
      · rfl
      · rcases Header.resolve_eq_position_iff.1 hsource with rfl | rfl
        · exact absurd hr hposition
        · exact absurd hr hzero
  rw [hs] at halike
  cases halike with
  | ok hagree => exact hagree row ordinal row' ordinal' ⟨rfl, rfl, rfl, rfl⟩

/-- **A selection looks only at what its tree refers to.** Two rows are both
selected or both not, if they have the same value, or none, in every cell to
which a reference of the tree resolves, and stand at one place, unless the
tree does not refer to the place. So a cell that is not referred to may be
replaced, a row may go on behind the cells that are, and it may always go on
with absent cells. -/
theorem selects_congr (hs : ofTree query t h = .ok s) :
    (∀ row row' ordinal ordinal', SameCells h t row row' → SamePlace t ordinal ordinal' →
      s.selects row ordinal = s.selects row' ordinal') ∧
    (∀ row ordinal i v, (∀ r ∈ t.references, h.resolve r ≠ .ok (.cell i)) →
      s.selects (row.set i v) ordinal = s.selects row ordinal) ∧
    (∀ row ordinal more,
      (∀ r ∈ t.references, ∀ i, h.resolve r = .ok (.cell i) → i < row.length) →
      s.selects (row ++ more) ordinal = s.selects row ordinal) ∧
    ∀ row ordinal n,
      s.selects (row ++ List.replicate n none) ordinal = s.selects row ordinal := by
  refine ⟨fun _ _ _ _ => selects_eq hs, fun row ordinal i v hi => ?_,
    fun row ordinal more hlt => ?_, fun row ordinal n => ?_⟩
  · refine selects_eq hs (fun r hr j hj => Row.cell_set_of_ne ?_ v) (.inl rfl)
    rintro rfl
    exact hi r hr hj
  · exact selects_eq hs (fun r hr i hi => Row.cell_append_of_lt (hlt r hr i hi) more) (.inl rfl)
  · exact selects_eq hs (fun _ _ i _ => row.cell_padded n i) (.inl rfl)

end Trees

/-- The second cell and the place do not matter to a tree that refers to the
first and the third. -/
theorem selects_congr_third :
    let t : Query.Tree := [[.negation (.comparison ⟨.name "a", .ilike, .reference (.index 3)⟩)]]
    let s : Selection := ⟨"", some fun row _ =>
      !Query.Operator.holds .ilike (row.cell 0) (row.cell 2)⟩
    ofTree "" t (.named ["a", "b"]) = .ok s ∧
      ∀ row ordinal ordinal' v, s.selects (row.set 1 v) ordinal = s.selects row ordinal ∧
        s.selects row ordinal = s.selects row ordinal' := by
  intro t s
  have hs : ofTree "" t (.named ["a", "b"]) = .ok s := rfl
  obtain ⟨hsame, hset, -, -⟩ := selects_congr hs
  have hrefs : t.references = [.name "a", .index 3] := rfl
  refine ⟨hs, fun row ordinal ordinal' v => ⟨hset row ordinal 1 v ?_, ?_⟩⟩
  · rw [hrefs]
    decide
  · refine hsame row row ordinal ordinal' (fun _ _ _ _ => rfl) (.inr ?_)
    rw [hrefs]
    decide

end Selection

end RowQuery
