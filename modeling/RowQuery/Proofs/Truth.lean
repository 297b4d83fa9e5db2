import RowQuery.Proofs.Comparison
import Mathlib.Data.List.Basic
/-!
# What a tree states, and its predicate

`Tree.Holds` reads OR, AND and NOT as the connectives of logic, over any
valuation of the comparisons. The predicate of a tree is that reading, at
the predicates of its comparisons, and there is none exactly when one of
them has none; the error is then that of the first, in the order of the
text (`predicate_compositional`). `Binds` carries the induction: it relates
a result to the comparisons it was made from, and both ways of joining
results keep it.
-/

namespace RowQuery

namespace Query

/-! ## Comparisons and their readings -/

mutual

/-- The comparisons of a term, in the order of the text. -/
def Term.comparisons : Term → List Comparison
  | .comparison c => [c]
  | .negation t => t.comparisons
  | .group alternatives => comparisons alternatives

/-- The comparisons of terms that hold together. -/
def termComparisons : List Term → List Comparison
  | [] => []
  | t :: rest => t.comparisons ++ termComparisons rest

/-- The comparisons of alternatives. -/
def comparisons : List (List Term) → List Comparison
  | [] => []
  | terms :: rest => termComparisons terms ++ comparisons rest

end

/-- The comparisons of a tree, in the order of the text. -/
def Tree.comparisons (t : Tree) : List Comparison :=
  Query.comparisons t

mutual

/-- What a term states, by what its comparisons do. -/
def Term.Holds (v : Comparison → Prop) : Term → Prop
  | .comparison c => v c
  | .negation t => ¬ t.Holds v
  | .group alternatives => AnyHolds v alternatives

/-- That terms hold together. -/
def AllHold (v : Comparison → Prop) : List Term → Prop
  | [] => True
  | t :: rest => t.Holds v ∧ AllHold v rest

/-- That one of the alternatives holds. -/
def AnyHolds (v : Comparison → Prop) : List (List Term) → Prop
  | [] => False
  | terms :: rest => AllHold v terms ∨ AnyHolds v rest

end

/-- What a tree states: one of its alternatives holds. -/
def Tree.Holds (v : Comparison → Prop) (t : Tree) : Prop :=
  AnyHolds v t

section Readings

variable {v : Comparison → Prop}

/-- Terms hold together when each of them does. -/
theorem allHold_iff {terms : List Term} : AllHold v terms ↔ ∀ t ∈ terms, t.Holds v := by
  induction terms with
  | nil => simp [AllHold]
  | cons t rest ih => simp [AllHold, ih]

/-- **What OR and AND mean**: a tree holds where all terms of one of its
alternatives do. -/
theorem Tree.holds_iff {t : Tree} :
    t.Holds v ↔ ∃ terms ∈ t, ∀ u ∈ terms, u.Holds v := by
  rw [Tree.Holds]
  induction t with
  | nil => simp [AnyHolds]
  | cons terms rest ih => simp [AnyHolds, allHold_iff, ih]

end Readings

/-- A single predicate stands for itself, whether it is wrapped or not. -/
theorem anyOf_eq_true {ps : List Predicate} {row : Row} {ordinal : ℕ} :
    anyOf ps row ordinal = true ↔ ∃ p ∈ ps, p row ordinal = true := by
  unfold anyOf
  split <;> simp

/-- The same, where all have to hold. -/
theorem allOf_eq_true {ps : List Predicate} {row : Row} {ordinal : ℕ} :
    allOf ps row ordinal = true ↔ ∀ p ∈ ps, p row ordinal = true := by
  unfold allOf
  split <;> simp

/-! ## The first error -/

section Bound

variable [Pattern.Engine]
variable {h : Header} {cs ds : List Comparison}

/-- All comparisons of a list have predicates. -/
def AllBound (h : Header) (cs : List Comparison) : Prop :=
  ∀ c ∈ cs, ∃ p, c.predicate h = .ok p

/-- The error of the first comparison of a list that has no predicate. -/
def FirstError (h : Header) (cs : List Comparison) (e : BindError) : Prop :=
  ∃ before c after, cs = before ++ c :: after ∧ AllBound h before ∧ c.predicate h = .error e

/-- Lists are bound in parts. -/
theorem allBound_append : AllBound h (cs ++ ds) ↔ AllBound h cs ∧ AllBound h ds := by
  simp [AllBound, or_imp, forall_and]

/-- A first error is that of the head, or comes behind a head that is bound. -/
theorem firstError_cons {c : Comparison} {e : BindError} :
    FirstError h (c :: cs) e ↔
      c.predicate h = .error e ∨ (∃ p, c.predicate h = .ok p) ∧ FirstError h cs e := by
  constructor
  · rintro ⟨before, d, after, hcs, hb, hd⟩
    -- the head is the comparison that fails, or one of those before it
    rcases before with - | ⟨b, before⟩ <;>
      simp only [List.nil_append, List.cons_append, List.cons.injEq] at hcs
    · exact .inl (hcs.1 ▸ hd)
    · obtain ⟨rfl, rfl⟩ := hcs
      exact .inr ⟨hb c (by simp), before, d, after, rfl, fun x hx => hb x (by simp [hx]), hd⟩
  · rintro (hc | ⟨hc, before, d, after, rfl, hb, hd⟩)
    · exact ⟨[], c, cs, rfl, by simp [AllBound], hc⟩
    · refine ⟨c :: before, d, after, rfl, ?_, hd⟩
      rintro x (_ | ⟨_, hx⟩)
      · exact hc
      · exact hb x hx

/-- A first error stays the first one, whatever follows. -/
theorem FirstError.append_right {e : BindError} (hcs : FirstError h cs e)
    (ds : List Comparison) : FirstError h (cs ++ ds) e := by
  obtain ⟨before, c, after, rfl, hb, hc⟩ := hcs
  exact ⟨before, c, after ++ ds, by simp, hb, hc⟩

/-- Comparisons that are bound leave the first error to those behind them. -/
theorem FirstError.append_left {e : BindError} (hds : FirstError h ds e)
    (hcs : AllBound h cs) : FirstError h (cs ++ ds) e := by
  obtain ⟨before, c, after, rfl, hb, hc⟩ := hds
  exact ⟨cs ++ before, c, after, by simp, allBound_append.2 ⟨hcs, hb⟩, hc⟩

/-- **A list has no two first errors.** -/
theorem FirstError.unique {e e' : BindError} (he : FirstError h cs e)
    (he' : FirstError h cs e') : e = e' := by
  induction cs with
  | nil =>
    obtain ⟨before, c, after, hcs, -, -⟩ := he
    simp at hcs
  | cons c cs ih =>
    rcases firstError_cons.1 he with hc | ⟨⟨p, hp⟩, hcs⟩ <;>
      rcases firstError_cons.1 he' with hc' | ⟨⟨p', hp'⟩, hcs'⟩
    · rw [hc] at hc'
      exact Except.error.inj hc'
    · rw [hc] at hp'
      cases hp'
    · rw [hp] at hc'
      cases hc'
    · exact ih hcs hcs'

/-- A list that is bound has no first error. -/
theorem AllBound.not_firstError {e : BindError} (hcs : AllBound h cs) :
    ¬ FirstError h cs e := by
  rintro ⟨before, c, after, rfl, -, hc⟩
  obtain ⟨p, hp⟩ := hcs c (by simp)
  rw [hp] at hc
  cases hc

/-! ## Binding a tree -/

/-- What became of comparisons: their first error, or something made of
their predicates, of which `good` is true. -/
inductive Binds {α : Type} (h : Header) (cs : List Comparison) (good : α → Prop) :
    Except BindError α → Prop
  /-- A comparison has no predicate. -/
  | error {e : BindError} : FirstError h cs e → Binds h cs good (.error e)
  /-- All of them have. -/
  | ok {a : α} : AllBound h cs → good a → Binds h cs good (.ok a)

namespace Binds

variable {α β γ : Type} {good : α → Prop}

/-- The result is the first error exactly if there is one. -/
theorem eq_error_iff {r : Except BindError α} (hr : Binds h cs good r) (e : BindError) :
    r = .error e ↔ FirstError h cs e := by
  cases hr with
  | @error e' he' =>
    refine ⟨fun heq => Except.error.inj heq ▸ he', fun he => ?_⟩
    rw [he'.unique he]
  | ok hb _ => exact ⟨nofun, fun he => absurd he hb.not_firstError⟩

/-- The result is good exactly if all comparisons are bound. -/
theorem exists_ok_iff {r : Except BindError α} (hr : Binds h cs good r) :
    (∃ a, r = .ok a ∧ good a) ↔ AllBound h cs := by
  cases hr with
  | error he => exact ⟨nofun, fun hb => absurd he hb.not_firstError⟩
  | @ok a hb ha => exact ⟨fun _ => hb, fun _ => ⟨a, rfl, ha⟩⟩

/-- What is made of the result alone. -/
theorem map {r : Except BindError α} {good' : β → Prop} {f : α → β} (hr : Binds h cs good r)
    (hf : ∀ a, good a → good' (f a)) : Binds h cs good' (r.map f) := by
  cases hr with
  | error he => exact .error he
  | ok hb ha => exact .ok hb (hf _ ha)

/-- What is made of the result and of one for the comparisons behind it. -/
theorem seq {r : Except BindError α} {s : Except BindError β} {good' : β → Prop}
    {good'' : γ → Prop} {f : α → β → γ} (hr : Binds h cs good r) (hs : Binds h ds good' s)
    (hf : ∀ a b, good a → good' b → good'' (f a b)) :
    Binds h (cs ++ ds) good'' (r.bind fun a => s.map (f a)) := by
  cases hr with
  | error he => exact .error (he.append_right ds)
  | ok hb ha =>
    cases hs with
    | error he => exact .error (he.append_left hb)
    | ok hb' ha' => exact .ok (allBound_append.2 ⟨hb, hb'⟩) (hf _ _ ha ha')

end Binds

/-- Whether a comparison has a predicate, and one that is true of a row. -/
def Comparison.Matches (h : Header) (row : Row) (ordinal : ℕ) (c : Comparison) : Prop :=
  ∃ p, c.predicate h = .ok p ∧ p row ordinal = true

/-- Terms are bound one after the other. -/
theorem termPredicates_cons {t : Term} {rest : List Term} :
    termPredicates h (t :: rest) =
      (t.predicate h).bind fun p => (termPredicates h rest).map (p :: ·) := by
  rw [termPredicates]
  cases t.predicate h <;> rfl

/-- And so are alternatives. -/
theorem predicates_cons {terms : List Term} {rest : List (List Term)} :
    predicates h (terms :: rest) =
      (termPredicates h terms).bind fun ps => (predicates h rest).map (allOf ps :: ·) := by
  rw [predicates]
  cases termPredicates h terms <;> rfl

/-- A comparison binds itself. -/
theorem Comparison.binds (c : Comparison) :
    Binds h [c] (fun p => ∀ row ordinal, p row ordinal = true ↔ c.Matches h row ordinal)
      (c.predicate h) := by
  cases hc : c.predicate h with
  | error e => exact .error ⟨[], c, [], rfl, by simp [AllBound], hc⟩
  | ok p =>
    refine .ok (by simp [AllBound, hc]) fun row ordinal => ?_
    simp [Matches, hc]

mutual

/-- **The predicate of a term is its reading**, or the first error. The
induction is on the term, through the lists of a group. -/
theorem Term.binds (t : Term) :
    Binds h t.comparisons
      (fun p => ∀ row ordinal, p row ordinal = true ↔ t.Holds (Comparison.Matches h row ordinal))
      (t.predicate h) :=
  match t with
  | .comparison c => c.binds
  | .negation t => by
    refine (Term.binds t).map fun p hp row ordinal => ?_
    rw [Term.Holds, ← hp row ordinal]
    simp
  | .group alternatives => by
    refine (binds_predicates alternatives).map fun ps hps row ordinal => ?_
    rw [Term.Holds, ← hps row ordinal, anyOf_eq_true]

/-- So are those of terms that hold together. -/
theorem binds_termPredicates (terms : List Term) :
    Binds h (termComparisons terms)
      (fun ps => ∀ row ordinal, (∀ p ∈ ps, p row ordinal = true) ↔
        AllHold (Comparison.Matches h row ordinal) terms)
      (termPredicates h terms) :=
  match terms with
  | [] => .ok (by simp [termComparisons, AllBound]) (by simp [AllHold])
  | t :: rest => by
    rw [termComparisons, termPredicates_cons]
    refine (Term.binds t).seq (binds_termPredicates rest) fun p ps hp hps row ordinal => ?_
    rw [AllHold, ← hp row ordinal, ← hps row ordinal]
    simp

/-- And those of alternatives. -/
theorem binds_predicates (alternatives : List (List Term)) :
    Binds h (comparisons alternatives)
      (fun ps => ∀ row ordinal, (∃ p ∈ ps, p row ordinal = true) ↔
        AnyHolds (Comparison.Matches h row ordinal) alternatives)
      (predicates h alternatives) :=
  match alternatives with
  | [] => .ok (by simp [comparisons, AllBound]) (by simp [AnyHolds])
  | terms :: rest => by
    rw [comparisons, predicates_cons]
    refine (binds_termPredicates terms).seq (binds_predicates rest)
      fun ps qs hps hqs row ordinal => ?_
    rw [AnyHolds, ← hps row ordinal, ← hqs row ordinal]
    simp [allOf_eq_true]

end

/-- The predicate of a tree is its reading, or the first error. -/
theorem Tree.binds (t : Tree) :
    Binds h t.comparisons
      (fun p => ∀ row ordinal, p row ordinal = true ↔ t.Holds (Comparison.Matches h row ordinal))
      (t.predicate h) :=
  (binds_predicates t).map fun ps hps row ordinal => by
    rw [Tree.Holds, ← hps row ordinal, anyOf_eq_true]

/-- **A tree is bound as a whole.** It has no predicate exactly if one of
its comparisons has none, and the error is that of the first of them, in
the order of the text, even where the words around it would never have it
tested. Otherwise the predicate is what the tree states of its comparisons,
each bound by itself. Within a comparison the left side comes first. -/
theorem predicate_compositional (h : Header) (t : Tree) :
    (∀ e, t.predicate h = .error e ↔ FirstError h t.comparisons e) ∧
    ((∃ p, t.predicate h = .ok p ∧
        ∀ row ordinal, p row ordinal = true ↔ t.Holds (Comparison.Matches h row ordinal)) ↔
      AllBound h t.comparisons) ∧
    ∀ c : Comparison,
      Tree.predicate h [[.comparison c]] = c.predicate h ∧
      ∀ e, c.predicate h = .error e ↔
        h.resolve c.subject = .error e ∨
          (∃ src, h.resolve c.subject = .ok src) ∧ c.OperandError h e := by
  refine ⟨t.binds.eq_error_iff, t.binds.exists_ok_iff, fun c => ⟨?_, fun e => ?_⟩⟩
  · rw [Tree.predicate, predicates, termPredicates, Term.predicate]
    cases c.predicate h <;> rfl
  · exact Comparison.predicate_eq_error_iff

end Bound

/-- An alternative that would never be tested is bound all the same. -/
example :
    Tree.predicate (.named ["a"])
        [[.comparison ⟨.name "a", .equal, .text "x"⟩], [.comparison ⟨.name "z", .equal, .text "y"⟩]] =
      .error (.unknownColumn "z") := rfl

end Query

end RowQuery
