import RowQuery.Proofs.Naming
import RowQuery.Proofs.References
/-!
# Names and the positions of columns

What a name means is a position, and what it means is all that a name does.
So a tree may be written with positions in the place of its names, and is
then bound alike under any header (`predicate_placed`); and where columns
change their places and rows go with them, a tree that has no positions of
columns in it selects the same places of rows (`selects_reordered`). Both
are the two runs of `Tree.alike`: in the first the references differ and the
rows do not, in the second it is the other way round.
-/

namespace RowQuery

namespace Query

namespace Reference

/-- The name of a reference by name, bare or quoted. -/
def name? : Reference → Option String
  | .name s | .quotedName s => some s
  | .index _ | .position => none

/-- The reference by position, for one by name, where it is told at which
index each name stands. Positions are counted from one. -/
def placed (place : String → ℕ) : Reference → Reference
  | .name s | .quotedName s => .index (place s + 1)
  | r => r

/-- The reference with its name in quotes. -/
def quoted : Reference → Reference
  | .name s => .quotedName s
  | r => r

end Reference

end Query

open Query (Reference Tree)

namespace Header

variable {r : Reference} {s : String}

/-- A reference by name means the cell of its column. -/
theorem resolve_of_name? (hr : r.name? = some s) (h : Header) :
    h.resolve r = (h.indexOf s).map .cell := by
  cases r with
  | name | quotedName =>
    obtain rfl := Option.some.inj hr
    rfl
  | index | position => cases hr

/-- Any other one has a meaning, which is the same under all headers. -/
theorem exists_resolve_of_name? (hr : r.name? = none) :
    ∃ source, ∀ h : Header, h.resolve r = .ok source := by
  rcases r with s | s | (_ | n) | _
  case name | quotedName => cases hr
  case index.zero | position => exact ⟨.position, fun _ => rfl⟩
  case index.succ => exact ⟨.cell n, fun _ => rfl⟩

/-- Quotes do not change what a reference means. -/
theorem resolve_quoted (h : Header) (r : Reference) : h.resolve r.quoted = h.resolve r := by
  cases r <;> rfl

/-- **A name and its position mean the same**, the one under the header of
the names and the other under any. -/
theorem resolve_placed {names : List String} (hnames : names.Nodup) {place : String → ℕ}
    (hplace : ∀ s, r.name? = some s → names[place s]? = some s) (h : Header) :
    h.resolve (r.placed place) = (ofNames (names.map some)).resolve r := by
  cases r with
  | name s | quotedName s =>
    have hfound := indexOf_ofNames hnames (hplace s rfl)
    exact (congrArg (Except.map Source.cell) hfound).symm
  | index n => cases n <;> rfl
  | position => rfl

end Header

namespace Query

/-- **Names are a spelling of positions.** Take columns with names of their
own, a tree whose names are all among them, and an index for each of these
names at which it stands. The tree with the position in the place of each
name has under any header, usable or not, the predicate that the tree itself
has under the names, or the same error; and that error is one of a text that
should be a regular expression and is none. So it does not matter which of
the names in a tree are quoted, and a tree without names has the same
predicate under all headers. -/
theorem predicate_placed [Pattern.Engine] {names : List String} (hnames : names.Nodup) {t : Tree}
    {place : String → ℕ}
    (hplace : ∀ r ∈ t.references, ∀ s, r.name? = some s → names[place s]? = some s) :
    (∀ columns : List Cell,
      (t.mapReferences (.placed place)).predicate (.ofNames columns) =
        t.predicate (.ofNames (names.map some))) ∧
    (∀ e, t.predicate (.ofNames (names.map some)) = .error e →
      ∃ s why, Pattern.whole s = .error why ∧ e = .invalidPattern s why) ∧
    (∀ (t₁ t₂ : Tree) (h : Header), t₁.mapReferences .quoted = t₂.mapReferences .quoted →
      t₁.predicate h = t₂.predicate h) ∧
    ∀ (u : Tree) (h h' : Header), (∀ r ∈ u.references, r.name? = none) →
      u.predicate h = u.predicate h' := by
  have hresolve (h : Header) : ∀ r ∈ t.references,
      h.resolve (r.placed place) = (Header.ofNames (names.map some)).resolve r := fun r hr =>
    Header.resolve_placed hnames (hplace r hr) h
  have hquoted (u : Tree) (h : Header) : (u.mapReferences .quoted).predicate h = u.predicate h :=
    (Tree.predicate_eq_of_resolve fun r _ => (h.resolve_quoted r).symm).symm
  refine ⟨fun columns => ?_, fun e => Tree.invalidPattern_of_error fun r hr => ?_,
    fun t₁ t₂ h heq => ?_, fun u h h' hnone => ?_⟩
  · exact (Tree.predicate_eq_of_resolve fun r hr => (hresolve _ r hr).symm).symm
  · cases hname : r.name? with
    | none =>
      obtain ⟨source, hsource⟩ := Header.exists_resolve_of_name? hname
      exact ⟨source, hsource _⟩
    | some s =>
      rw [Header.resolve_of_name? hname, Header.indexOf_ofNames hnames (hplace r hr s hname)]
      exact ⟨_, rfl⟩
  · rw [← hquoted t₁, heq, hquoted t₂]
  · have hsame : u.predicate h = (u.mapReferences id).predicate h' :=
      Tree.predicate_eq_of_resolve fun r hr => by
        obtain ⟨source, hsource⟩ := Header.exists_resolve_of_name? (hnone r hr)
        rw [id, hsource, hsource]
    rwa [Tree.mapReferences_id] at hsame

/-- Under names that are missing or repeated, positions do what the names do
under others. -/
theorem predicate_placed_unusable :
    let t : Tree := [[.comparison ⟨.quotedName "b c", .like, .reference (.name "a")⟩]]
    let names := ["a", "b c"]
    names.Nodup ∧
      (∀ r ∈ t.references, ∀ s, r.name? = some s → names[names.idxOf s]? = some s) ∧
      Tree.predicate (.ofNames [none, some "a", some "a"])
          [[.comparison ⟨.index 2, .like, .reference (.index 1)⟩]] =
        t.predicate (.ofNames (names.map some)) := by
  intro t names
  have hnames : names.Nodup := by decide
  have hplace : ∀ r ∈ t.references, ∀ s, r.name? = some s → names[names.idxOf s]? = some s := by
    have hrefs : t.references = [.quotedName "b c", .name "a"] := rfl
    rw [hrefs]
    rintro r hr s hs
    simp only [List.mem_cons, List.not_mem_nil, or_false] at hr
    rcases hr with rfl | rfl <;> cases hs <;> decide
  exact ⟨hnames, hplace, (predicate_placed hnames hplace).1 [none, some "a", some "a"]⟩

end Query

/-! ## Columns that change their places -/

/-- **Columns that change their places**: each goes where the permutation
takes it. -/
structure Reorders {n : ℕ} (π : Equiv.Perm (Fin n)) (names names' : List String) : Prop where
  /-- So many columns there are -/
  length : names.length = n
  /-- before and after. -/
  length' : names'.length = n
  /-- The name goes with the column. -/
  getElem? : ∀ i : Fin n, names'[(π i : ℕ)]? = names[(i : ℕ)]?

/-- The cells of a row go with their columns. Cells behind the last column
may be anything, and a cell that is missing may be absent. -/
def Row.Moves {n : ℕ} (π : Equiv.Perm (Fin n)) (row row' : Row) : Prop :=
  ∀ i : Fin n, row'.cell (π i) = row.cell i

/-- Each row is tested along with those that have its cells moved. -/
def Pairing.moved {n : ℕ} (π : Equiv.Perm (Fin n)) : Pairing :=
  fun row ordinal row' ordinal' => row.Moves π row' ∧ ordinal = ordinal'

namespace Reorders

variable {n : ℕ} {π : Equiv.Perm (Fin n)} {names names' : List String}

/-- The way back. -/
theorem symm (h : Reorders π names names') : Reorders π.symm names' names where
  length := h.length'
  length' := h.length
  getElem? i := by rw [← h.getElem? (π.symm i), Equiv.apply_symm_apply]

/-- No name is lost. -/
theorem mem {name : String} (h : Reorders π names names') (hname : name ∈ names) :
    name ∈ names' := by
  obtain ⟨i, hi, rfl⟩ := List.getElem_of_mem hname
  have hmoved := h.getElem? ⟨i, hi.trans_eq h.length⟩
  rw [List.getElem?_eq_getElem hi] at hmoved
  exact List.mem_of_getElem? hmoved

/-- Names that differ from each other still do. -/
theorem nodup (h : Reorders π names names') (hnames : names.Nodup) : names'.Nodup := by
  refine List.nodup_iff_getElem?_ne_getElem?.2 fun i j hij hj heq => ?_
  rw [h.length'] at hj
  -- the two places have come from two others
  have hi := h.symm.getElem? ⟨i, hij.trans hj⟩
  rw [heq, ← h.symm.getElem? ⟨j, hj⟩] at hi
  have hlt : (π.symm ⟨i, hij.trans hj⟩ : ℕ) < names.length :=
    (Fin.isLt _).trans_eq h.length.symm
  have hback := Fin.ext ((List.getElem?_inj hlt hnames).1 hi)
  exact absurd (Fin.mk.inj (π.symm.injective hback)) hij.ne

/-- A name means a column before and after, which has moved in between. -/
theorem alike_indexOf (h : Reorders π names names') (hnames : names.Nodup) (hne : names ≠ [])
    (name : String) :
    Alike (fun i j => ∃ k, i = k.val ∧ j = (π k).val)
      ((Header.ofNames (names.map some)).indexOf name)
      ((Header.ofNames (names'.map some)).indexOf name) := by
  by_cases hname : name ∈ names
  · obtain ⟨i, hi, rfl⟩ := List.getElem_of_mem hname
    have hfound := List.getElem?_eq_getElem hi
    have hmoved := (h.getElem? ⟨i, hi.trans_eq h.length⟩).trans hfound
    rw [Header.indexOf_ofNames hnames hfound, Header.indexOf_ofNames (h.nodup hnames) hmoved]
    exact .ok ⟨_, rfl, rfl⟩
  · have hne' : names' ≠ [] := by
      obtain ⟨other, hother⟩ := List.exists_mem_of_ne_nil _ hne
      exact List.ne_nil_of_mem (h.mem hother)
    rw [Header.indexOf_ofNames_of_notMem hnames hne hname,
      Header.indexOf_ofNames_of_notMem (h.nodup hnames) hne' (mt h.symm.mem hname)]
    exact .error

/-- **So any reference but a position of a column reads the same** from a row
and from the row with the cells moved along. -/
theorem alike_resolve (h : Reorders π names names') (hnames : names.Nodup) (hne : names ≠ [])
    {r : Reference} (hr : ∀ k, r ≠ .index (k + 1)) :
    Alike (Source.Agree (.moved π)) ((Header.ofNames (names.map some)).resolve r)
      ((Header.ofNames (names'.map some)).resolve r) := by
  rcases r with name | name | (_ | k) | _
  case name | quotedName =>
    refine (h.alike_indexOf hnames hne name).map ?_
    rintro _ _ ⟨i, rfl, rfl⟩ row ordinal row' _ ⟨hrow, rfl⟩
    exact (hrow i).symm
  case index.succ => exact absurd rfl (hr k)
  -- the place of a row is not moved
  all_goals
    refine .ok ?_
    rintro row ordinal row' _ ⟨-, rfl⟩
    rfl

end Reorders

namespace Selection

variable {s s' : Selection}

/-- Rows that are selected alike, one by one, are selected at the same
indices. -/
theorem map_snd_selected {moves : Row → Row → Prop}
    (hs : ∀ row row', moves row row' → ∀ ordinal, s.selects row ordinal = s'.selects row' ordinal)
    {rows rows' : List Row} (hrows : List.Forall₂ moves rows rows') :
    (s.selected rows).map Prod.snd = (s'.selected rows').map Prod.snd := by
  suffices h : ∀ k, ((rows.zipIdx k).filter fun a => s.selects a.1 a.2).map Prod.snd =
      ((rows'.zipIdx k).filter fun a => s'.selects a.1 a.2).map Prod.snd from h 0
  induction hrows with
  | nil => exact fun _ => rfl
  | @cons row row' _ _ hrow _ ih =>
    intro k
    simp only [List.zipIdx_cons, List.filter_cons, hs row row' hrow k]
    cases s'.selects row' k with
    | false => exact ih (k + 1)
    | true => exact congrArg (k :: ·) (ih (k + 1))

/-- **The order of the columns does not matter to a query by name.** Take
columns with names of their own, in two orders, and a tree that refers to no
column by position. Under both headers it fails with one error, or its
selections select the same: a row and the row with the cells moved along are
both selected at an index or both not, so from a table and the table with its
columns moved the rows at the same indices are selected. -/
theorem selects_reordered [Pattern.Engine] {n : ℕ} {π : Equiv.Perm (Fin n)}
    {names names' : List String} (hnames : names.Nodup) (hne : names ≠ [])
    (hπ : Reorders π names names') (query : String)
    {t : Tree} (ht : ∀ r ∈ t.references, ∀ k, r ≠ .index (k + 1)) :
    Alike
      (fun s s' =>
        (∀ row row', row.Moves π row' → ∀ ordinal,
          s.selects row ordinal = s'.selects row' ordinal) ∧
        ∀ rows rows', List.Forall₂ (Row.Moves π) rows rows' →
          (s.selected rows).map Prod.snd = (s'.selected rows').map Prod.snd)
      (ofTree query t (.ofNames (names.map some)))
      (ofTree query t (.ofNames (names'.map some))) := by
  refine (alike_ofTree fun r hr => hπ.alike_resolve hnames hne (ht r hr)).mono fun s s' hs => ?_
  have hrow : ∀ row row', row.Moves π row' → ∀ ordinal,
      s.selects row ordinal = s'.selects row' ordinal := fun row row' hmoves ordinal =>
    hs row ordinal row' ordinal ⟨hmoves, rfl⟩
  exact ⟨hrow, fun _ _ => map_snd_selected hrow⟩

/-- Two columns are exchanged, under rows that have both cells and under rows
that have one. -/
theorem selects_reordered_exchanged :
    let t : Tree := [[.comparison ⟨.name "a", .like, .reference (.quotedName "b")⟩]]
    ["a", "b"].Nodup ∧ ["a", "b"] ≠ [] ∧
      Reorders (Equiv.swap (0 : Fin 2) 1) ["a", "b"] ["b", "a"] ∧
      (∀ r ∈ t.references, ∀ k, r ≠ .index (k + 1)) ∧
      ∃ s s', ofTree "" t (.ofNames [some "a", some "b"]) = .ok s ∧
        ofTree "" t (.ofNames [some "b", some "a"]) = .ok s' ∧
        ∀ a b ordinal, s.selects [a, b] ordinal = s'.selects [b, a] ordinal ∧
          s.selects [a] ordinal = s'.selects [none, a] ordinal := by
  intro t
  have hnames : ["a", "b"].Nodup := by decide
  have hπ : Reorders (Equiv.swap (0 : Fin 2) 1) ["a", "b"] ["b", "a"] :=
    ⟨rfl, rfl, Fin.forall_fin_two.2 ⟨rfl, rfl⟩⟩
  have ht : ∀ r ∈ t.references, ∀ k, r ≠ .index (k + 1) := by
    have hrefs : t.references = [.name "a", .quotedName "b"] := rfl
    simp [hrefs]
  have halike := selects_reordered hnames (by decide) hπ "" ht
  have hs : ofTree "" t (.ofNames [some "a", some "b"]) =
      .ok ⟨"", some fun row _ => Query.Operator.holds .like (row.cell 0) (row.cell 1)⟩ := rfl
  have hs' : ofTree "" t (.ofNames [some "b", some "a"]) =
      .ok ⟨"", some fun row _ => Query.Operator.holds .like (row.cell 1) (row.cell 0)⟩ := rfl
  simp only [List.map_cons, List.map_nil, hs, hs'] at halike
  cases halike with
  | ok hagree =>
    refine ⟨hnames, by decide, hπ, ht, _, _, hs, hs', fun a b ordinal => ⟨?_, ?_⟩⟩
    · exact hagree.1 [a, b] [b, a] (Fin.forall_fin_two.2 ⟨rfl, rfl⟩) ordinal
    · exact hagree.1 [a] [none, a] (Fin.forall_fin_two.2 ⟨rfl, rfl⟩) ordinal

end Selection

end RowQuery
