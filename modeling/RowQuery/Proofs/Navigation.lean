import RowQuery.Proofs.Recall
/-!
# Steps in a row

What is answered when older or newer queries are asked for again and again.
The cursor goes to the end of the queries or to their front, and each query
between is the answer once (`Recall.asked_older`, `Recall.asked_newer`). Both
hold wherever the cursor is at one of the queries, and so after any actions,
be the queries cut at the front by a submission from an older one or at the
end for want of room. That steps in one direction are undone by as many in
the other, and that all queries can be seen, is read off the two.
-/

namespace RowQuery

namespace Recall

variable {r : Recall} {step : Recall → String × Recall} {actions : List Action}

/-- Takes a step a number of times: the answers, and what can be recalled
then. -/
def asked (step : Recall → String × Recall) : ℕ → Recall → List String × Recall
  | 0, r => ([], r)
  | m + 1, r => ((step r).1 :: (asked step m (step r).2).1, (asked step m (step r).2).2)

theorem asked_succ (m : ℕ) (r : Recall) :
    asked step (m + 1) r =
      ((step r).1 :: (asked step m (step r).2).1, (asked step m (step r).2).2) :=
  rfl

/-- Where the cursor is at the front already, the answer is the first query
and nothing changes. -/
theorem newer_of_cursor (h : r.cursor = 0) : r.newer = (r.entries.headD "", r) := by
  rw [newer, h, List.headD_eq_head?_getD, List.head?_eq_getElem?, Nat.zero_sub, ← h]

/-- Elsewhere it is the query before. -/
theorem newer_of_lt {c : ℕ} (h : r.cursor = c + 1) (hc : c < r.entries.length) :
    r.newer = (r.entries[c], { r with cursor := c }) := by
  simp [newer, h, hc]

/-- **Steps to older queries** read what is behind the cursor, and nothing
when the last query has been read. -/
theorem asked_older (h : r.Sound) (m : ℕ) :
    asked older m r =
      ((r.entries.drop (r.cursor + 1)).take m ++
          List.replicate (m - (r.entries.length - 1 - r.cursor)) "",
        { r with cursor := min (r.cursor + m) (r.entries.length - 1) }) := by
  have hcursor := h.cursor
  induction m generalizing r with
  | zero =>
    have hstay : min r.cursor (r.entries.length - 1) = r.cursor := by omega
    simp [asked, hstay]
  | succ m ih =>
    rcases r.older_cases with ⟨hend, hr⟩ | ⟨hlt, hr⟩
    · -- the answers are empty from now on
      have hleft : m + 1 - (r.entries.length - 1 - r.cursor) =
          m - (r.entries.length - 1 - r.cursor) + 1 := by omega
      have hstay : min (r.cursor + (m + 1)) (r.entries.length - 1) =
          min (r.cursor + m) (r.entries.length - 1) := by omega
      rw [asked_succ, hr, ih h hcursor, List.drop_eq_nil_of_le hend, hleft, hstay]
      simp [List.replicate_succ]
    · have hnext : ({ r with cursor := r.cursor + 1 } : Recall).Sound := by
        have := h.apply .older
        rwa [Action.apply, hr] at this
      have htake : (r.entries.drop (r.cursor + 1)).take (m + 1) =
          r.entries[r.cursor + 1] :: (r.entries.drop (r.cursor + 1 + 1)).take m := by
        rw [List.drop_eq_getElem_cons hlt, List.take_succ_cons]
      have hleft : m + 1 - (r.entries.length - 1 - r.cursor) =
          m - (r.entries.length - 1 - (r.cursor + 1)) := by omega
      have hmove : r.cursor + (m + 1) = r.cursor + 1 + m := by omega
      rw [asked_succ, hr, ih hnext hnext.cursor, htake, hleft, hmove]
      rfl

/-- **Steps to newer queries** read what is before the cursor, and the
first query from then on. -/
theorem asked_newer (h : r.Sound) (m : ℕ) :
    asked newer m r =
      ((r.entries.take r.cursor).reverse.take m ++
          List.replicate (m - r.cursor) (r.entries.headD ""),
        { r with cursor := r.cursor - m }) := by
  have hcursor := h.cursor
  induction m generalizing r with
  | zero => simp [asked]
  | succ m ih =>
    cases hc : r.cursor with
    | zero =>
      rw [asked_succ, newer_of_cursor hc, ih h hcursor, hc]
      simp [List.replicate_succ]
    | succ c =>
      have hlt : c < r.entries.length := by omega
      have hr := newer_of_lt hc hlt
      have hnext : ({ r with cursor := c } : Recall).Sound := by
        have := h.apply .newer
        rwa [Action.apply, hr] at this
      have htake : (r.entries.take (c + 1)).reverse.take (m + 1) =
          r.entries[c] :: (r.entries.take c).reverse.take m := by
        rw [← List.take_concat_get' _ _ hlt, List.reverse_concat, List.take_succ_cons]
      rw [asked_succ, hr, ih hnext hnext.cursor, htake, Nat.add_sub_add_right,
        Nat.add_sub_add_right]
      rfl

/-- Steps to older queries as far as there are any, and as many back: the
same queries come again in the other order, the last of them the one at the
cursor, and all is as before. -/
theorem asked_newer_asked_older (h : r.Sound) {m : ℕ} (hm : r.cursor + m < r.entries.length) :
    asked newer m (asked older m r).2 = (((r.entries.drop r.cursor).take m).reverse, r) := by
  have hstop : min (r.cursor + m) (r.entries.length - 1) = r.cursor + m := by omega
  have hsound : ({ r with cursor := r.cursor + m } : Recall).Sound := ⟨.inr hm, h.length_le⟩
  have hvisited : ((r.entries.take (r.cursor + m)).reverse.take m) =
      ((r.entries.drop r.cursor).take m).reverse := by
    rw [List.take_add, List.reverse_append, List.take_append_of_le_length]
    · exact List.take_of_length_le (by simp)
    · simp; omega
  rw [asked_older h, hstop, asked_newer hsound]
  simp only [hvisited, Nat.add_sub_cancel]
  simp

/-- **From the front, steps to older queries show all the others.** -/
theorem asked_older_asked_newer (h : r.Sound) {m : ℕ} (hm : r.cursor ≤ m) :
    (asked older (r.entries.length - 1) (asked newer m r).2).1 = r.entries.tail := by
  have hfront : r.cursor - m = 0 := by omega
  have hsound : ({ r with cursor := 0 } : Recall).Sound := ⟨.inl rfl, h.length_le⟩
  rw [asked_newer h, hfront, asked_older hsound]
  simp

/-- **Steps through the queries.** Take what can be recalled after any actions.
If there are queries, steps to older ones read those behind the cursor in
their order, one for each step, and then nothing, and the cursor stays at the
last query; steps to newer ones read those before the cursor, and the first
query ever after, where the cursor stays. So steps to older queries, as many
as there are such, are undone by as many to newer ones, which read the same
again from the last but one to the one that the cursor was at; and with the
cursor back at the front, steps to older queries read all but the first in
their order, each of them once. If there are no queries, nothing is read and
nothing changes. -/
theorem steps_through (hr : after actions = r) :
    (∀ hne : r.entries ≠ [], ∀ m,
      asked older m r =
        ((r.entries.drop (r.cursor + 1)).take m ++
            List.replicate (m - (r.entries.length - 1 - r.cursor)) "",
          { r with cursor := min (r.cursor + m) (r.entries.length - 1) }) ∧
      asked newer m r =
        ((r.entries.take r.cursor).reverse.take m ++
            List.replicate (m - r.cursor) (r.entries.head hne),
          { r with cursor := r.cursor - m }) ∧
      (m ≤ r.entries.length - 1 - r.cursor →
        asked newer m (asked older m r).2 = (((r.entries.drop r.cursor).take m).reverse, r)) ∧
      (r.cursor ≤ m →
        (asked older (r.entries.length - 1) (asked newer m r).2).1 = r.entries.tail)) ∧
    (r.entries = [] → ∀ m,
      asked older m r = (List.replicate m "", r) ∧ asked newer m r = (List.replicate m "", r)) := by
  have h : r.Sound := hr ▸ sound_after actions
  have hcursor := h.cursor
  refine ⟨fun hne m => ⟨asked_older h m, ?_, fun hm => ?_, asked_older_asked_newer h⟩,
    fun hnil m => ?_⟩
  · rw [asked_newer h, List.headD_eq_head?_getD, List.head?_eq_some_head hne]
    rfl
  · have := List.length_pos_iff.2 hne
    exact asked_newer_asked_older h (by omega)
  · have hzero : r.cursor = 0 := by simpa [hnil] using hcursor
    have hstay : ⟨[], 0, r.paused⟩ = r := by rw [← hnil, ← hzero]
    rw [asked_older h, asked_newer h]
    simp [hnil, hzero, hstay]

/-- A submission from an older query drops the newest, and the steps go
through those that are left. -/
theorem steps_through_branched :
    let r : Recall := ⟨["d", "b", "a"], 1, false⟩
    after [.submit "a", .submit "b", .submit "c", .older, .submit "d", .older] = r ∧
      asked older 3 r = (["a", "", ""], ⟨["d", "b", "a"], 2, false⟩) ∧
      asked newer 3 r = (["d", "d", "d"], ⟨["d", "b", "a"], 0, false⟩) ∧
      asked newer 1 (asked older 1 r).2 = (["b"], r) ∧
      (asked older 2 (asked newer 1 r).2).1 = ["b", "a"] := by
  intro r
  have hr : after [.submit "a", .submit "b", .submit "c", .older, .submit "d", .older] = r := by
    decide
  have hsteps := (steps_through hr).1 (List.cons_ne_nil _ _)
  obtain ⟨holder, hnewer, -, -⟩ := hsteps 3
  obtain ⟨-, -, hback, hall⟩ := hsteps 1
  exact ⟨hr, holder, hnewer, hback (by decide), hall (by decide)⟩

end Recall

end RowQuery
