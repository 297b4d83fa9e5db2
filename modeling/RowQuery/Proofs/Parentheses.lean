import Mathlib
import RowQuery.Proofs.Joining
import RowQuery.Proofs.Printing
/-!
# Parentheses that change nothing

Parentheses can be put round any part of a query that is a phrase by itself,
and none of them changes what the query selects. `Parenthesized` is the
grammar with this one rule more. The tree that is read has a group for each
pair that was added; it has the same comparisons in the same order and states
the same of them (`Parenthesized.restated`), and more of a tree does not
matter for its predicate (`Tree.predicate_congr`). So the connectives bind as
if the parentheses stood that leave a query as it is
(`parentheses_redundant`).
-/

namespace RowQuery

namespace Query

/-! ## Adding parentheses -/

/-- **The grammar with added parentheses**: the lists of tokens that a phrase
may have if any part of it that is a phrase can be put in parentheses, any
number of times. -/
inductive Parenthesized : List Token → Phrase → Prop
  /-- A comparison. -/
  | comparison {x : Reference} {op : Operator} {y : Operand} {t u : Token} :
      x.Written t → y.Written u →
      Parenthesized [t, .operator op, u] (.term (.comparison ⟨x, op, y⟩))
  /-- The negation of a term. -/
  | not {ts : List Token} {t : Term} :
      Parenthesized ts (.term t) → Parenthesized (.not :: ts) (.term (.negation t))
  /-- A query whose parentheses are its own. -/
  | group {ts : List Token} {q : Tree} :
      Parenthesized ts (.query q) →
      Parenthesized (.opening :: ts ++ [.closing]) (.term (.group q))
  /-- A single term. -/
  | single {ts : List Token} {t : Term} :
      Parenthesized ts (.term t) → Parenthesized ts (.terms [t])
  /-- Terms and further ones. -/
  | and {ts us : List Token} {c d : Conjunction} :
      Parenthesized ts (.terms c) → Parenthesized us (.terms d) →
      Parenthesized (ts ++ .and :: us) (.terms (c ++ d))
  /-- A query of one alternative. -/
  | alternative {ts : List Token} {c : Conjunction} :
      Parenthesized ts (.terms c) → Parenthesized ts (.query [c])
  /-- Alternatives and further ones. -/
  | or {ts us : List Token} {q r : Tree} :
      Parenthesized ts (.query q) → Parenthesized us (.query r) →
      Parenthesized (ts ++ .or :: us) (.query (q ++ r))
  /-- **A phrase in parentheses that were added.** -/
  | added {ts : List Token} {p : Phrase} :
      Parenthesized ts p → Parenthesized (.opening :: ts ++ [.closing]) p

variable {ts us : List Token} {p : Phrase}

/-- None need be added. -/
theorem Derives.parenthesized (h : Derives ts p) : Parenthesized ts p := by
  induction h with
  | alternative _ ih => exact .alternative ih
  | or _ _ ihc ihq => exact .or (.alternative ihc) ihq
  | single _ ih => exact .single ih
  | and _ _ iht ihc => exact .and (.single iht) ihc
  | not _ ih => exact .not ih
  | group _ ih => exact .group ih
  | comparison hx hy => exact .comparison hx hy

/-! ## What a phrase states -/

/-- The comparisons of a phrase, in the order of the text. -/
def Phrase.comparisons : Phrase → List Comparison
  | query q => Query.comparisons q
  | terms c => termComparisons c
  | term t => t.comparisons

/-- **Tokens restate a phrase** if they are one of its kind that has the same
comparisons, and holds where it does, whatever holds of them. -/
def Phrase.RestatedBy (ts : List Token) : Phrase → Prop
  | query q => ∃ r, Derives ts (.query r) ∧ Query.comparisons r = Query.comparisons q ∧
      ∀ v, AnyHolds v r ↔ AnyHolds v q
  | terms c => ∃ d, Derives ts (.terms d) ∧ termComparisons d = termComparisons c ∧
      ∀ v, AllHold v d ↔ AllHold v c
  | term t => ∃ u, Derives ts (.term u) ∧ u.comparisons = t.comparisons ∧
      ∀ v, u.Holds v ↔ t.Holds v

section Parts

variable {v : Comparison → Prop}

theorem termComparisons_append (c d : Conjunction) :
    termComparisons (c ++ d) = termComparisons c ++ termComparisons d := by
  induction c with
  | nil => rfl
  | cons t c ih => rw [List.cons_append, termComparisons, termComparisons, ih, List.append_assoc]

theorem comparisons_append (q r : Tree) :
    comparisons (q ++ r) = comparisons q ++ comparisons r := by
  induction q with
  | nil => rfl
  | cons c q ih => rw [List.cons_append, comparisons, comparisons, ih, List.append_assoc]

theorem allHold_append (c d : Conjunction) :
    AllHold v (c ++ d) ↔ AllHold v c ∧ AllHold v d := by
  rw [allHold_iff, allHold_iff, allHold_iff, List.forall_mem_append]

theorem anyHolds_append (q r : Tree) : AnyHolds v (q ++ r) ↔ AnyHolds v q ∨ AnyHolds v r := by
  induction q with
  | nil => simp [AnyHolds]
  | cons c q ih => rw [List.cons_append, AnyHolds, AnyHolds, ih, or_assoc]

/-- What stands alone has the comparisons of its only part, -/
theorem termComparisons_singleton (t : Term) : termComparisons [t] = t.comparisons :=
  List.append_nil _

theorem comparisons_singleton (c : Conjunction) : comparisons [c] = termComparisons c :=
  List.append_nil _

/-- and states what that states. -/
theorem allHold_singleton (t : Term) : AllHold v [t] ↔ t.Holds v :=
  and_iff_left trivial

theorem anyHolds_singleton (c : Conjunction) : AnyHolds v [c] ↔ AllHold v c :=
  or_iff_left id

end Parts

/-- A phrase in parentheses is a group, which restates it. -/
theorem Phrase.RestatedBy.added (h : p.RestatedBy ts) :
    p.RestatedBy (.opening :: ts ++ [.closing]) := by
  cases p with
  | query q =>
    obtain ⟨r, hd, hc, hv⟩ := h
    refine ⟨[[.group r]], .alternative (.single (.group hd)), ?_, fun v => ?_⟩
    · rw [comparisons_singleton, termComparisons_singleton]
      exact hc
    · rw [anyHolds_singleton, allHold_singleton]
      exact hv v
  | terms c =>
    obtain ⟨d, hd, hc, hv⟩ := h
    refine ⟨[.group [d]], .single (.group (.alternative hd)), ?_, fun v => ?_⟩
    · rw [termComparisons_singleton, Term.comparisons, comparisons_singleton, hc]
    · rw [allHold_singleton, Term.Holds, anyHolds_singleton, hv]
  | term t =>
    obtain ⟨u, hd, hc, hv⟩ := h
    refine ⟨.group [[u]], .group (.alternative (.single hd)), ?_, fun v => ?_⟩
    · rw [Term.comparisons, comparisons_singleton, termComparisons_singleton, hc]
    · rw [Term.Holds, anyHolds_singleton, allHold_singleton, hv]

/-- **A phrase is restated with added parentheses.** The induction is on the
parenthesized phrase. -/
theorem Parenthesized.restated (h : Parenthesized ts p) : p.RestatedBy ts := by
  induction h with
  | comparison hx hy => exact ⟨_, .comparison hx hy, rfl, fun _ => Iff.rfl⟩
  | not _ ih =>
    obtain ⟨_, hd, hc, hv⟩ := ih
    exact ⟨_, .not hd, hc, fun v => not_congr (hv v)⟩
  | group _ ih =>
    obtain ⟨_, hd, hc, hv⟩ := ih
    exact ⟨_, .group hd, hc, hv⟩
  | single _ ih =>
    obtain ⟨_, hd, hc, hv⟩ := ih
    refine ⟨_, .single hd, ?_, fun v => ?_⟩
    · rw [termComparisons_singleton, termComparisons_singleton, hc]
    · rw [allHold_singleton, allHold_singleton, hv]
  | and _ _ ihc ihd =>
    obtain ⟨_, hd, hc, hv⟩ := ihc
    obtain ⟨_, hd', hc', hv'⟩ := ihd
    refine ⟨_, hd.and_append hd', ?_, fun v => ?_⟩
    · rw [termComparisons_append, termComparisons_append, hc, hc']
    · rw [allHold_append, allHold_append, hv, hv']
  | alternative _ ih =>
    obtain ⟨_, hd, hc, hv⟩ := ih
    refine ⟨_, .alternative hd, ?_, fun v => ?_⟩
    · rw [comparisons_singleton, comparisons_singleton, hc]
    · rw [anyHolds_singleton, anyHolds_singleton, hv]
  | or _ _ ihq ihr =>
    obtain ⟨_, hd, hc, hv⟩ := ihq
    obtain ⟨_, hd', hc', hv'⟩ := ihr
    refine ⟨_, hd.or_append hd', ?_, fun v => ?_⟩
    · rw [comparisons_append, comparisons_append, hc, hc']
    · rw [anyHolds_append, anyHolds_append, hv, hv']
  | added _ ih => exact ih.added

/-- There is something in any phrase. -/
theorem Parenthesized.ne_nil (h : Parenthesized ts p) : ts ≠ [] := by
  induction h with
  | single _ ih | alternative _ ih => exact ih
  | _ => simp

/-- **A predicate depends on nothing else of the tree.** -/
theorem Tree.predicate_congr [Pattern.Engine] {T T' : Tree}
    (hc : T.comparisons = T'.comparisons) (hv : ∀ v, T.Holds v ↔ T'.Holds v) (h : Header) :
    T.predicate h = T'.predicate h := by
  have hT := T.binds (h := h)
  have hT' := T'.binds (h := h)
  rw [← hc] at hT'
  generalize T.predicate h = r at hT ⊢
  generalize T'.predicate h = r' at hT' ⊢
  cases hT with
  | error he =>
    cases hT' with
    | error he' => rw [he.unique he']
    | ok hb' => exact absurd he (hb'.not_firstError)
  | ok hb hp =>
    cases hT' with
    | error he' => exact absurd he' (hb.not_firstError)
    | ok _ hp' =>
      refine congrArg Except.ok (funext fun row => funext fun ordinal => ?_)
      rw [Bool.eq_iff_iff, hp, hp', hv]

/-! ## Tokens that can be written -/

/-- The token of a reference can be written if the reference can. -/
theorem Reference.Written.writable_iff {x : Reference} {t : Token} (h : x.Written t) :
    t.Writable ↔ x.WellFormed := by
  cases h with
  | name => exact Iff.rfl
  | quotedName => exact Iff.rfl
  | position => exact iff_of_true (Nat.two_pow_pos 64) trivial
  | index hn => exact ⟨fun ht => ⟨hn, ht⟩, And.right⟩

theorem Operand.Written.writable_iff {y : Operand} {t : Token} (h : y.Written t) :
    t.Writable ↔ y.WellFormed := by
  cases h with
  | text => exact Iff.rfl
  | reference hx => exact hx.writable_iff

/-- **Added parentheses can be written**, as connectives can: there is nothing
in the way but comparisons. -/
theorem Parenthesized.writable_iff (h : Parenthesized ts p) :
    (∀ t ∈ ts, t.Writable) ↔ ∀ c ∈ p.comparisons, c.WellFormed := by
  induction h with
  | comparison hx hy =>
    rw [List.forall_mem_cons, List.forall_mem_cons, List.forall_mem_singleton, hx.writable_iff,
      hy.writable_iff]
    simp [Phrase.comparisons, Term.comparisons, Comparison.WellFormed, Token.Writable]
  | not _ ih => simpa [Phrase.comparisons, Term.comparisons, Token.Writable] using ih
  | group _ ih =>
    simpa [Phrase.comparisons, Term.comparisons, or_imp, forall_and, Token.Writable] using ih
  | single _ ih => simpa [Phrase.comparisons, termComparisons] using ih
  | and _ _ ihc ihd =>
    rw [Phrase.comparisons] at ihc ihd ⊢
    rw [termComparisons_append, List.forall_mem_append, List.forall_mem_append, ihc,
      List.forall_mem_cons, ihd]
    simp [Token.Writable]
  | alternative _ ih => simpa [Phrase.comparisons, comparisons] using ih
  | or _ _ ihq ihr =>
    rw [Phrase.comparisons] at ihq ihr ⊢
    rw [comparisons_append, List.forall_mem_append, List.forall_mem_append, ihq,
      List.forall_mem_cons, ihr]
    simp [Token.Writable]
  | added _ ih => simpa [or_imp, forall_and, Token.Writable] using ih

/-! ## Selecting alike -/

/-- **Two texts select alike**: they fail with the same error, or select the
same rows at the same indices. -/
def SelectAlike [Pattern.Engine] (h : Header) (q q' : String) : Prop :=
  match Selection.ofText q h, Selection.ofText q' h with
  | .error e, .error e' => e = e'
  | .ok s, .ok s' => ∀ row ordinal, s.selects row ordinal = s'.selects row ordinal
  | _, _ => False

variable {h : Header} {q q' : String} {T T' : Tree}

/-- They do if their trees have the same predicate. -/
theorem selectAlike_of_predicate [Pattern.Engine] (hq : read q = .ok T)
    (hq' : read q' = .ok T') (hT : T.predicate h = T'.predicate h) : SelectAlike h q q' := by
  rw [SelectAlike, ofText_of_read hq, ofText_of_read hq', hT]
  cases T'.predicate h with
  | error e => rfl
  | ok p => exact fun _ _ => rfl

/-- A row of the tokens of a query with added parentheses is read as a tree
with the same predicate. -/
theorem Parenthesized.exists_read [Pattern.Engine] (h : Parenthesized ts (.query T))
    (hrow : IsRow q.toList ts) :
    ∃ T', read q = .ok T' ∧ ∀ h, T'.predicate h = T.predicate h := by
  obtain ⟨T', hd, hc, hv⟩ := h.restated
  exact ⟨T', read_iff_isRow.2 ⟨ts, hrow, hd⟩, Tree.predicate_congr hc hv⟩

/-- And there is such a row, if the query was read. -/
theorem Parenthesized.isRow_spaced (h : Parenthesized ts (.query T)) (hq : read q = .ok T)
    {gap : ℕ → List Char} (hgap : ∀ n, gap n ≠ [] ∧ Blank (gap n)) :
    IsRow (spaced gap ts) ts := by
  obtain ⟨us, hrow, hd⟩ := read_iff_isRow.1 hq
  have hus : ∀ t ∈ us, t.Writable := fun t ht =>
    have ⟨_, hword⟩ := hrow.exists_spells t ht
    hword.writable
  have hts : ∀ t ∈ ts, t.Writable := h.writable_iff.2 (hd.parenthesized.writable_iff.1 hus)
  exact Query.isRow_spaced hgap hts h.ne_nil

/-! ## How connectives bind -/

/-- A query of one alternative can stand beside AND, -/
theorem isPhrase_terms_of_read {c : Conjunction} (hq : read q = .ok [c]) :
    IsPhrase q.toList (.terms c) := by
  obtain ⟨ts, hrow, hd⟩ := read_iff_isRow.1 hq
  cases hd with
  | alternative hc => exact ⟨ts, hrow, hc⟩
  | or _ hnil => nomatch hnil

/-- and a query of one term behind NOT. -/
theorem isPhrase_term_of_read {t : Term} (hq : read q = .ok [[t]]) :
    IsPhrase q.toList (.term t) := by
  obtain ⟨ts, hrow, hd⟩ := isPhrase_terms_of_read hq
  cases hd with
  | single ht => exact ⟨ts, hrow, ht⟩
  | and _ hnil => nomatch hnil

/-- **AND binds closer than OR.** -/
theorem select_or_and [Pattern.Engine] {q₁ q₂ q₃ : String} {T : Tree} {c d : Conjunction}
    (h₁ : read q₁ = .ok T) (h₂ : read q₂ = .ok [c]) (h₃ : read q₃ = .ok [d]) :
    read (q₁ ++ " OR " ++ q₂ ++ " AND " ++ q₃) = .ok (T ++ [c ++ d]) ∧
      read (q₁ ++ " OR (" ++ q₂ ++ " AND " ++ q₃ ++ ")") = .ok (T ++ [[.group [c ++ d]]]) ∧
      ∀ h, SelectAlike h (q₁ ++ " OR " ++ q₂ ++ " AND " ++ q₃)
        (q₁ ++ " OR (" ++ q₂ ++ " AND " ++ q₃ ++ ")") := by
  have hp := isPhrase_of_read h₁
  have hboth := (isPhrase_terms_of_read h₂).and_append (isPhrase_terms_of_read h₃)
  have hbare : read (q₁ ++ " OR " ++ q₂ ++ " AND " ++ q₃) = .ok (T ++ [c ++ d]) :=
    (hp.or hboth.query).read_eq (by simp)
  have hgroup : read (q₁ ++ " OR (" ++ q₂ ++ " AND " ++ q₃ ++ ")") =
      .ok (T ++ [[.group [c ++ d]]]) :=
    (hp.or hboth.query.group.terms.query).read_eq (by simp)
  refine ⟨hbare, hgroup, fun h => selectAlike_of_predicate hbare hgroup ?_⟩
  refine Tree.predicate_congr ?_ (fun v => ?_) h
  · simp [Tree.comparisons, Term.comparisons, comparisons_append, comparisons_singleton,
      termComparisons_singleton]
  · simp [Tree.Holds, Term.Holds, anyHolds_append, anyHolds_singleton, allHold_singleton]

/-- **NOT binds closer than AND.** -/
theorem select_not_and [Pattern.Engine] {q₁ q₂ : String} {t : Term} {c : Conjunction}
    (h₁ : read q₁ = .ok [[t]]) (h₂ : read q₂ = .ok [c]) :
    read ("NOT " ++ q₁ ++ " AND " ++ q₂) = .ok [.negation t :: c] ∧
      read ("(NOT " ++ q₁ ++ ") AND " ++ q₂) = .ok [.group [[.negation t]] :: c] ∧
      ∀ h, SelectAlike h ("NOT " ++ q₁ ++ " AND " ++ q₂) ("(NOT " ++ q₁ ++ ") AND " ++ q₂) := by
  have hnot := (isPhrase_term_of_read h₁).not
  have hc := isPhrase_terms_of_read h₂
  have hbare : read ("NOT " ++ q₁ ++ " AND " ++ q₂) = .ok [.negation t :: c] :=
    (hnot.and hc).query.read_eq (by simp)
  have hgroup : read ("(NOT " ++ q₁ ++ ") AND " ++ q₂) = .ok [.group [[.negation t]] :: c] :=
    (hnot.terms.query.group.and hc).query.read_eq (by simp)
  refine ⟨hbare, hgroup, fun h => selectAlike_of_predicate hbare hgroup ?_⟩
  refine Tree.predicate_congr ?_ (fun v => ?_) h
  · simp [Tree.comparisons, comparisons, termComparisons, Term.comparisons]
  · simp [Tree.Holds, AnyHolds, AllHold, Term.Holds]

/-- **Parentheses that change nothing.** Take a query, and put pairs of
parentheses round any of its parts: round comparisons, negations and what they
negate, terms that stand together, alternatives. The tokens can be written
with any white space between them, and every text in which they are written
is a query. Its tree has the same predicate under every header, or the same
error, so the text selects what the query selects. Therefore AND binds closer
than OR, and NOT closer than AND. -/
theorem parentheses_redundant [Pattern.Engine] :
    (∀ q T, read q = .ok T → ∀ ts, Parenthesized ts (.query T) →
      (∀ gap : ℕ → List Char, (∀ n, gap n ≠ [] ∧ Blank (gap n)) → IsRow (spaced gap ts) ts) ∧
      ∀ q', IsRow q'.toList ts → ∃ T', read q' = .ok T' ∧
        ∀ h, T'.predicate h = T.predicate h ∧ SelectAlike h q q') ∧
    (∀ q₁ q₂ q₃ T c d, read q₁ = .ok T → read q₂ = .ok [c] → read q₃ = .ok [d] →
      read (q₁ ++ " OR " ++ q₂ ++ " AND " ++ q₃) = .ok (T ++ [c ++ d]) ∧
      read (q₁ ++ " OR (" ++ q₂ ++ " AND " ++ q₃ ++ ")") = .ok (T ++ [[.group [c ++ d]]]) ∧
      ∀ h, SelectAlike h (q₁ ++ " OR " ++ q₂ ++ " AND " ++ q₃)
        (q₁ ++ " OR (" ++ q₂ ++ " AND " ++ q₃ ++ ")")) ∧
    ∀ q₁ q₂ t c, read q₁ = .ok [[t]] → read q₂ = .ok [c] →
      read ("NOT " ++ q₁ ++ " AND " ++ q₂) = .ok [.negation t :: c] ∧
      read ("(NOT " ++ q₁ ++ ") AND " ++ q₂) = .ok [.group [[.negation t]] :: c] ∧
      ∀ h, SelectAlike h ("NOT " ++ q₁ ++ " AND " ++ q₂) ("(NOT " ++ q₁ ++ ") AND " ++ q₂) := by
  refine ⟨?_, fun _ _ _ _ _ _ => select_or_and, fun _ _ _ _ => select_not_and⟩
  intro q T hq ts hts
  refine ⟨fun gap hgap => hts.isRow_spaced hq hgap, ?_⟩
  intro q' hrow
  obtain ⟨T', hq', hpredicate⟩ := hts.exists_read hrow
  refine ⟨T', hq', ?_⟩
  intro h
  exact ⟨hpredicate h, selectAlike_of_predicate hq hq' (hpredicate h).symm⟩

/-- Parentheses round a negation, round what it negates and round all of the
terms. -/
theorem parentheses_redundant_nested :
    ∃ T, read "( ( NOT ( a = 'x' ) ) AND b = $0 )" = .ok T ∧
      ∀ h, SelectAlike h "NOT a = 'x' AND b = $0" "( ( NOT ( a = 'x' ) ) AND b = $0 )" := by
  have hq : read "NOT a = 'x' AND b = $0" =
      .ok [[.negation (.comparison ⟨.name "a", .equal, .text "x"⟩),
        .comparison ⟨.name "b", .equal, .reference .position⟩]] := by
    cbv
  have hts : Parenthesized
      [.opening, .opening, .not, .opening, .name "a", .operator .equal, .text "x", .closing,
        .closing, .and, .name "b", .operator .equal, .index 0, .closing]
      (.query [[.negation (.comparison ⟨.name "a", .equal, .text "x"⟩),
        .comparison ⟨.name "b", .equal, .reference .position⟩]]) :=
    .added (.alternative (.and
      (.single (.added (.not (.added (.comparison .name .text)))))
      (.single (.comparison .name (.reference .position)))))
  have hgap : ∀ n : ℕ, (fun _ => [' ']) n ≠ [] ∧ Blank ((fun _ => [' ']) n) :=
    fun _ => ⟨List.cons_ne_nil _ _, blank_space⟩
  obtain ⟨hrow, halike⟩ := parentheses_redundant.1 _ _ hq _ hts
  obtain ⟨T', hq', h⟩ := halike "( ( NOT ( a = 'x' ) ) AND b = $0 )" (hrow _ hgap)
  exact ⟨T', hq', fun header => (h header).2⟩

end Query

end RowQuery
