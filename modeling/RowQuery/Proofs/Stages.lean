import Mathlib
import RowQuery.Proofs.Joining
import RowQuery.Proofs.References
/-!
# Selecting in stages

A selection numbers the rows it is given from zero, whatever table they come
from. So to select from what was selected counts other rows than to select
from the table, and what is selected in two stages can be selected in one
only where the second does not look at the place of a row. A tree that does
not refer to the place gives such a selection (`Selection.steady_of_placeless`),
and that is a filter on rows alone (`Selection.Steady.apply_eq`), so it goes
along with the other laws of filters. The first stage may look at the place,
since its rows are those of the table (`Selection.select_staged`).
-/

namespace RowQuery

open Query (Tree)

/-- A tree that does not refer to the place of the row. -/
def Query.Tree.Placeless (t : Tree) : Prop :=
  .position ∉ t.references ∧ .index 0 ∉ t.references

/-- **What is kept of rows**: those at the indices where a condition holds. -/
structure Keeps (holds : Row → ℕ → Prop) (rows : List Row) (indices : List ℕ)
    (kept : List Row) : Prop where
  /-- They are in their order, and none of them is kept twice. -/
  ordered : indices.Pairwise (· < ·)
  /-- They are the rows for which the condition holds, -/
  mem_iff : ∀ i, i ∈ indices ↔ ∃ row, rows[i]? = some row ∧ holds row i
  /-- and are kept as they are. -/
  map_some : kept.map some = indices.map fun i => rows[i]?

/-- **A condition on rows alone** does not need their indices. -/
theorem Row.map_fst_filter_zipIdx (p : Row → Bool) (rows : List Row) :
    (rows.zipIdx.filter fun a => p a.1).map Prod.fst = rows.filter p := by
  have hmap : (rows.zipIdx.map Prod.fst).filter p =
      (rows.zipIdx.filter (p ∘ Prod.fst)).map Prod.fst := List.filter_map
  rw [List.zipIdx_map_fst] at hmap
  exact hmap.symm

namespace Selection

variable {s f g : Selection} {h : Header} {query : String} {T U : Tree}

/-- **The rows that are selected are kept**, and no others. -/
theorem keeps_apply (s : Selection) (rows : List Row) :
    Keeps (fun row i => s.selects row i = true) rows ((s.selected rows).map Prod.snd)
      (s.apply rows) where
  ordered := by
    have hsub : ((s.selected rows).map Prod.snd).Sublist (List.range' 0 rows.length) := by
      rw [← List.zipIdx_map_snd]
      exact List.filter_sublist.map Prod.snd
    exact List.Pairwise.sublist hsub (List.pairwise_lt_range' 1)
  mem_iff i := by
    simp [selected, List.mem_zipIdx_iff_getElem?]
  map_some := by
    rw [apply, List.map_map, List.map_map]
    refine List.map_congr_left fun a ha => ?_
    have hmem := List.mem_zipIdx_iff_getElem?.1 (List.mem_filter.1 ha).1
    exact hmem.symm

/-! ## Selections that do not look at the place -/

/-- **A selection that does not look at the place of a row.** -/
def Steady (s : Selection) : Prop :=
  ∀ row i j, s.selects row i = s.selects row j

/-- It is made by a tree that does not refer to the place. -/
theorem steady_of_placeless [Pattern.Engine] (hs : ofTree query T h = .ok s) (hT : T.Placeless) :
    s.Steady :=
  fun _ _ _ => selects_eq hs (fun _ _ _ _ => rfl) (.inr hT)

/-- **It filters the rows**, without their indices. -/
theorem Steady.apply_eq (hs : s.Steady) (rows : List Row) :
    s.apply rows = rows.filter fun row => s.selects row 0 := by
  have hplace : (fun a : Row × ℕ => s.selects a.1 a.2) = fun a => s.selects a.1 0 :=
    funext fun a => hs a.1 a.2 0
  rw [← Row.map_fst_filter_zipIdx, ← hplace]
  rfl

/-- **Behind another selection it keeps what both select**, at the indices
that the rows had for the other. -/
theorem Steady.apply_apply (hg : g.Steady)
    (hs : ∀ row i, s.selects row i = (f.selects row i && g.selects row i)) (rows : List Row) :
    g.apply (f.apply rows) = s.apply rows := by
  have hboth : (fun a : Row × ℕ => s.selects a.1 a.2) =
      fun a => ((fun row => g.selects row 0) ∘ Prod.fst) a && f.selects a.1 a.2 := by
    funext a
    rw [hs, Bool.and_comm, hg a.1 a.2 0]
    rfl
  rw [hg.apply_eq, apply, apply, selected, selected, List.filter_map, List.filter_filter]
  exact congrArg (fun p => (rows.zipIdx.filter p).map Prod.fst) hboth.symm

/-- The selection by two trees that hold together, each in parentheses. -/
theorem ofTree_and [Pattern.Engine] {qf qg : String} (hf : ofTree qf T h = .ok f)
    (hg : ofTree qg U h = .ok g) (query : String) :
    ∃ s, ofTree query [[.group T, .group U]] h = .ok s ∧
      ∀ row i, s.selects row i = (f.selects row i && g.selects row i) := by
  obtain ⟨p, hp, rfl⟩ := Text.exists_of_map_eq_ok hf
  obtain ⟨q, hq, rfl⟩ := Text.exists_of_map_eq_ok hg
  refine ⟨⟨query, some (Query.joinedBy (· && ·) p q)⟩, ?_, fun _ _ => rfl⟩
  rw [ofTree, Query.predicate_and, Query.predicate_group, Query.predicate_group, hp, hq]
  rfl

/-- **Selecting in stages is selecting once**, if the later stages do not look
at the place of a row. A sheet from which rows were selected has its columns
and the rows at the indices that the selection selects, each once and in their
order. Take a second selection by a tree that does not refer to the place. To
select by both in turn is to select by the two trees together, each in
parentheses, even if the first refers to the place. The second selects from
rows and further rows what it selects from each; to select by it again changes
nothing; and it does not matter which of two such selections comes first. -/
theorem select_staged [Pattern.Engine] {qf qg : String} (hf : ofTree qf T h = .ok f)
    (hg : ofTree qg U h = .ok g) :
    (∀ t : Sheet, (t.select f).names = t.names ∧
      ∃ indices, Keeps (fun row i => f.selects row i = true) t.rows indices (t.select f).rows) ∧
    (U.Placeless →
      (∀ query, ∃ s, ofTree query [[.group T, .group U]] h = .ok s ∧
        ∀ t : Sheet, (t.select f).select g = t.select s) ∧
      (∀ rows rows', g.apply (rows ++ rows') = g.apply rows ++ g.apply rows') ∧
      (∀ t : Sheet, (t.select g).select g = t.select g) ∧
      (T.Placeless → ∀ t : Sheet, (t.select f).select g = (t.select g).select f)) := by
  refine ⟨fun t => ⟨rfl, _, f.keeps_apply t.rows⟩, fun hU => ?_⟩
  have hsteady : g.Steady := steady_of_placeless hg hU
  refine ⟨fun query => ?_, fun rows rows' => ?_, fun t => ?_, fun hT t => ?_⟩
  · obtain ⟨s, hs, hboth⟩ := ofTree_and hf hg query
    refine ⟨s, hs, fun t => ?_⟩
    rw [Sheet.select, Sheet.select, Sheet.select, hsteady.apply_apply hboth]
  · rw [hsteady.apply_eq, hsteady.apply_eq, hsteady.apply_eq, List.filter_append]
  · rw [Sheet.select, Sheet.select, hsteady.apply_apply (s := g) fun _ _ => (Bool.and_self _).symm]
  · have hsteady' : f.Steady := steady_of_placeless hf hT
    simp only [Sheet.select, hsteady.apply_eq, hsteady'.apply_eq]
    rw [List.filter_comm]

/-- The first of two selections counts the rows, and the second compares them
under the header. -/
theorem select_staged_counted :
    let T : Tree := [[.comparison ⟨.position, .greater, .text "1"⟩]]
    let U : Tree := [[.comparison ⟨.name "a", .notEqual, .reference (.index 2)⟩]]
    ∃ f g, ofTree "$0 > '1'" T (.ofNames [some "a"]) = .ok f ∧
      ofTree "a <> $2" U (.ofNames [some "a"]) = .ok g ∧ U.Placeless ∧
      ∃ s, ofTree "" [[.group T, .group U]] (.ofNames [some "a"]) = .ok s ∧
        ∀ t : Sheet, (t.select f).select g = t.select s := by
  intro T U
  have hf : ∃ f, ofTree "$0 > '1'" T (.ofNames [some "a"]) = .ok f := ⟨_, rfl⟩
  have hg : ∃ g, ofTree "a <> $2" U (.ofNames [some "a"]) = .ok g := ⟨_, rfl⟩
  obtain ⟨f, hf⟩ := hf
  obtain ⟨g, hg⟩ := hg
  have hU : U.Placeless := by
    have hrefs : U.references = [.name "a", .index 2] := rfl
    rw [Tree.Placeless, hrefs]
    decide
  exact ⟨f, g, hf, hg, hU, ((select_staged hf hg).2 hU).1 ""⟩

/-- By the place, a second time selects otherwise: of the rows that the first
one left, the first is now at the first place. -/
example :
    let s : Selection := ⟨"", some fun _ i => i = 1⟩
    s.apply [[some "a"], [some "b"]] = [[some "b"]] ∧ s.apply [[some "b"]] = [] := by
  decide

end Selection

end RowQuery
