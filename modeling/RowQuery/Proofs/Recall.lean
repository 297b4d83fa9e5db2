import Mathlib
import RowQuery.Recall
/-!
# Recall after any actions

Queries are submitted, recalled in both directions and passed over, in any
order. An action either adds a query, by which the queries that are newer
than the cursor are dropped and the cursor comes back to the front
(`Recall.apply_of_added`), or leaves the queries as they are
(`Recall.apply_of_not_added`). So the cursor never leaves the queries
(`Recall.Sound.apply`), they are some of those that were added, newest first
(`Recall.entries_sublist_added`), and they are the last of them where the
cursor was never moved to older ones (`Recall.Unmoved.entries_eq`).
-/

namespace RowQuery

namespace Recall

/-! ## Actions -/

/-- What is done at the prompt. -/
inductive Action
  /-- A query is submitted. -/
  | submit (query : String)
  /-- The next older query is asked for. -/
  | older
  /-- The next newer query is asked for. -/
  | newer
  /-- Submissions are passed over from now on, or taken again. -/
  | setPaused (paused : Bool)

namespace Action

/-- What can be recalled after an action. -/
def apply (r : Recall) : Action → Recall
  | submit query => r.submit query
  | older => r.older.2
  | newer => r.newer.2
  | setPaused paused => r.setPaused paused

/-- Whether submissions are passed over after an action, if it is known
whether they were before it. -/
def pauses (paused : Bool) : Action → Bool
  | setPaused paused' => paused'
  | _ => paused

/-- The query that an action adds: one that is submitted and not passed
over. -/
def added? (paused : Bool) : Action → Option String
  | submit query => if paused then none else some query
  | _ => none

end Action

/-- What can be recalled after actions, and nothing before them. -/
def after (actions : List Action) : Recall :=
  actions.foldl Action.apply .empty

/-- The queries that actions add, in their order. It has to be known whether
submissions were passed over before. -/
def added (paused : Bool) : List Action → List String
  | [] => []
  | a :: rest => (a.added? paused).toList ++ added (a.pauses paused) rest

variable {r : Recall} {a : Action} {actions : List Action} {query : String}

theorem after_append (actions : List Action) (a : Action) :
    after (actions ++ [a]) = a.apply (after actions) := by
  rw [after, List.foldl_append]
  rfl

/-- An older query is found where there is one, and otherwise nothing
changes. -/
theorem older_cases (r : Recall) :
    r.entries.length ≤ r.cursor + 1 ∧ r.older = ("", r) ∨
      ∃ h : r.cursor + 1 < r.entries.length,
        r.older = (r.entries[r.cursor + 1], { r with cursor := r.cursor + 1 }) := by
  rcases Nat.lt_or_ge (r.cursor + 1) r.entries.length with hlt | hge
  · exact .inr ⟨hlt, by rw [older, List.getElem?_eq_getElem hlt]⟩
  · exact .inl ⟨hge, by rw [older, List.getElem?_eq_none hge]⟩

theorem paused_apply (r : Recall) (a : Action) : (a.apply r).paused = a.pauses r.paused := by
  cases a with
  | submit query =>
    rw [Action.apply, submit]
    split <;> rfl
  | older => rcases r.older_cases with ⟨-, h⟩ | ⟨_, h⟩ <;> rw [Action.apply, h] <;> rfl
  | newer | setPaused => rfl

/-- **An action that adds a query** drops the ones that are newer than the
cursor, and puts its own before the others. -/
theorem apply_of_added (h : a.added? r.paused = some query) :
    a.apply r =
      { r with entries := (query :: r.entries.drop r.cursor).take capacity, cursor := 0 } := by
  cases a with
  | submit q =>
    rw [Action.added?] at h
    split at h
    · cases h
    · next hpaused =>
      cases h
      rw [Action.apply, submit, if_neg hpaused]
  | older | newer | setPaused => cases h

/-- **An action that adds none** leaves the queries as they are. Only to ask
for an older query takes the cursor away from the front, and to another
query. -/
theorem apply_of_not_added (h : a.added? r.paused = none) :
    (a.apply r).entries = r.entries ∧
      ((a.apply r).cursor ≤ r.cursor ∨ a = .older ∧ (a.apply r).cursor < r.entries.length) := by
  cases a with
  | submit q =>
    rw [Action.added?] at h
    split at h
    · next hpaused =>
      rw [Action.apply, submit, if_pos hpaused]
      exact ⟨rfl, .inl le_rfl⟩
    · cases h
  | older =>
    rcases r.older_cases with ⟨-, hr⟩ | ⟨hlt, hr⟩ <;> rw [Action.apply, hr]
    · exact ⟨rfl, .inl le_rfl⟩
    · exact ⟨rfl, .inr ⟨rfl, hlt⟩⟩
  | newer => exact ⟨rfl, .inl (Nat.sub_le _ _)⟩
  | setPaused => exact ⟨rfl, .inl le_rfl⟩

/-- **The last action adds its query behind the others.** -/
theorem added_append (actions : List Action) (a : Action) :
    added false (actions ++ [a]) =
      added false actions ++ (a.added? (after actions).paused).toList := by
  suffices ∀ r : Recall, added r.paused (actions ++ [a]) =
      added r.paused actions ++ (a.added? (actions.foldl Action.apply r).paused).toList from
    this .empty
  intro r
  induction actions generalizing r with
  | nil => simp [added]
  | cons b rest ih =>
    rw [List.cons_append, added, added, ← paused_apply, ih, List.append_assoc]
    rfl

/-! ## After any actions -/

/-- **The cursor is at one of the queries**, or at the front if there are
none, and there are not too many of them. -/
structure Sound (r : Recall) : Prop where
  /-- The cursor is at the front, or at another query. -/
  cursor : r.cursor = 0 ∨ r.cursor < r.entries.length
  /-- No more queries are kept than there is room for. -/
  length_le : r.entries.length ≤ capacity

/-- **No action takes the cursor away from the queries.** -/
theorem Sound.apply (h : r.Sound) (a : Action) : (a.apply r).Sound := by
  cases hadded : a.added? r.paused with
  | some query =>
    rw [apply_of_added hadded]
    exact ⟨.inl rfl, List.length_take_le _ _⟩
  | none =>
    obtain ⟨hentries, hcursor⟩ := apply_of_not_added hadded
    refine ⟨?_, hentries ▸ h.length_le⟩
    have := h.cursor
    rw [hentries]
    omega

theorem sound_after (actions : List Action) : (after actions).Sound := by
  induction actions using List.reverseRecOn with
  | nil => exact ⟨.inl rfl, Nat.zero_le _⟩
  | append_singleton actions a ih =>
    rw [after_append]
    exact ih.apply a

/-- **The queries are some of those that were added**, newest first, and
the one that was added last is the first of them. -/
theorem entries_sublist_added (actions : List Action) :
    (after actions).entries.Sublist (added false actions).reverse ∧
      (after actions).entries.head? = (added false actions).getLast? := by
  induction actions using List.reverseRecOn with
  | nil => exact ⟨.slnil, rfl⟩
  | append_singleton actions a ih =>
    rw [after_append, added_append]
    cases hadded : a.added? (after actions).paused with
    | some query =>
      rw [apply_of_added hadded, Option.toList_some, List.reverse_append, List.getLast?_concat]
      refine ⟨(List.take_sublist _ _).trans (.cons_cons query ?_), rfl⟩
      exact (List.drop_sublist _ _).trans ih.1
    | none =>
      rw [(apply_of_not_added hadded).1, Option.toList_none, List.append_nil]
      exact ih

/-- Actions in which the cursor is never moved to an older query. -/
def Unmoved (actions : List Action) : Prop :=
  ∀ before later, actions = before ++ .older :: later →
    (after before).older.2.cursor = (after before).cursor

/-- **Where the cursor is never moved, the queries are the last that were
added**, as many as there is room for. -/
theorem Unmoved.entries_eq (h : Unmoved actions) :
    (after actions).cursor = 0 ∧
      (after actions).entries = (added false actions).reverse.take capacity := by
  induction actions using List.reverseRecOn with
  | nil => exact ⟨rfl, rfl⟩
  | append_singleton actions a ih =>
    obtain ⟨hcursor, hentries⟩ := ih fun before later heq => h before (later ++ [a]) (by simp [heq])
    rw [after_append, added_append]
    cases hadded : a.added? (after actions).paused with
    | some query =>
      rw [apply_of_added hadded, hcursor, hentries, Option.toList_some, List.reverse_append]
      refine ⟨rfl, ?_⟩
      -- what there is no room for now had none behind the new query either
      simp [capacity, List.take_take]
    | none =>
      obtain ⟨hsame, hmove⟩ := apply_of_not_added hadded
      rw [hsame, Option.toList_none, List.append_nil]
      refine ⟨?_, hentries⟩
      rcases hmove with hle | ⟨rfl, -⟩
      · exact Nat.le_zero.1 (hcursor ▸ hle)
      · exact (h actions [] rfl).trans hcursor

/-- **What can be recalled is consistent after any actions.** The cursor is at
one of the queries, or at the front if there are none, and there are at most
a thousand of them; so what a submission drops is there to be dropped, and
an older query is read where there is one. The queries are some of those
that were submitted while submissions were taken, newest first, and the last
of these is the first of them. A submission that is passed over changes
nothing, and neither a step to an older or to a newer query nor a pause
changes the queries; any other submission drops those that are newer than
the cursor, puts its query before the rest, as far as there is room, and
comes back to the front. Where no step to an older query ever moved the
cursor, the queries are the last thousand that were submitted, or all. -/
theorem after_consistent (actions : List Action) :
    ((after actions).cursor < (after actions).entries.length ∨
      (after actions).entries = [] ∧ (after actions).cursor = 0) ∧
    (after actions).entries.length ≤ 1000 ∧
    ((after actions).entries.length ≤ (after actions).cursor + 1 ∧
        (after actions).older = ("", after actions) ∨
      ∃ h : (after actions).cursor + 1 < (after actions).entries.length,
        (after actions).older = ((after actions).entries[(after actions).cursor + 1],
          { after actions with cursor := (after actions).cursor + 1 })) ∧
    (after actions).entries.Sublist (added false actions).reverse ∧
    (after actions).entries.head? = (added false actions).getLast? ∧
    (∀ query, (after actions).paused = true →
      after (actions ++ [.submit query]) = after actions) ∧
    (∀ a ∈ [.older, .newer, .setPaused true, .setPaused false],
      (after (actions ++ [a])).entries = (after actions).entries) ∧
    (∀ query, (after actions).paused = false →
      after (actions ++ [.submit query]) =
        ⟨(query :: (after actions).entries.drop (after actions).cursor).take 1000, 0, false⟩) ∧
    (Unmoved actions →
      (after actions).entries = (added false actions).reverse.take 1000) := by
  have hsound := sound_after actions
  obtain ⟨hsublist, hhead⟩ := entries_sublist_added actions
  refine ⟨?_, hsound.length_le, older_cases _, hsublist, hhead, fun query hpaused => ?_,
    fun a ha => ?_, fun query hpaused => ?_, fun h => h.entries_eq.2⟩
  · have hcursor := hsound.cursor
    by_cases hnil : (after actions).entries = []
    · rw [hnil, List.length_nil] at hcursor
      exact .inr ⟨hnil, by omega⟩
    · have := List.length_pos_iff.2 hnil
      exact .inl (by omega)
  · rw [after_append, Action.apply, submit, if_pos hpaused]
  · rw [after_append]
    refine (apply_of_not_added ?_).1
    simp only [List.mem_cons, List.not_mem_nil, or_false] at ha
    rcases ha with rfl | rfl | rfl | rfl <;> rfl
  · have hadded : (Action.submit query).added? (after actions).paused = some query := by
      simp [Action.added?, hpaused]
    rw [after_append, apply_of_added hadded, hpaused]
    rfl

/-- A query is submitted behind a step to an older one, and one that is
recalled meanwhile is passed over. -/
example :
    (after [.submit "a", .submit "b", .submit "c", .older, .setPaused true, .submit "b",
      .setPaused false, .submit "d"]).entries = ["d", "b", "a"] := by
  decide

end Recall

end RowQuery
