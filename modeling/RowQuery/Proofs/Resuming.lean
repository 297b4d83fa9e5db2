import Mathlib
import RowQuery.Proofs.Progress
import RowQuery.Proofs.Recognition
import RowQuery.Text.Reading
/-!
# Readers that are asked again

A reader can be asked for a query again after it has given one, or an error;
it goes on from the token at which it stopped. `Stop` tells in what state a
run leaves it. As a rule it is in step: its token is the one that stands at
its place in the text. It is lost when the scanner failed behind a token
that had been taken by value: then the end of the query stands in for that
token, and all that comes is an error at a place where something else stands
(`Reader.inStep_later_iff`). Lost or not, a reader that is asked again has
less to read or gives the same answer for ever, so that the answers settle
(`Reader.answers_settle`).
-/

namespace RowQuery

namespace Query

/-- The end of the query is no operand. -/
theorem Token.ne_finish_of_operand? {t : Token} (h : t.operand?.isSome) : t ≠ .finish := by
  rintro rfl
  cases h

/-! ## The token at a place -/

/-- **The token that stands at a place of a text**; the end of the query
stands at its end. -/
def StandsAt (q : String) (t : Token) (p : ℕ) : Prop :=
  p ≤ q.length ∧ (Lexeme.first (q.toList.drop p)).outcome = .ok t

section StandsAt

variable {q : String} {t u : Token} {p : ℕ}

/-- No two tokens stand at one place. -/
theorem StandsAt.unique (h : StandsAt q t p) (h' : StandsAt q u p) : t = u :=
  Except.ok.inj (h.2.symm.trans h'.2)

theorem standsAt_finish_iff : StandsAt q .finish p ↔ p = q.length := by
  constructor
  · intro h
    have hnil := List.drop_eq_nil_iff.1 (Lexeme.eq_nil_of_finish h.2)
    rw [String.length_toList] at hnil
    exact Nat.le_antisymm h.1 hnil
  · rintro rfl
    rw [StandsAt, ← String.length_toList, List.drop_length]
    exact ⟨Nat.le_refl _, rfl⟩

/-- A token that is not the end stands before it. -/
theorem StandsAt.lt (h : StandsAt q t p) (ht : t ≠ .finish) : p < q.length := by
  refine Nat.lt_of_le_of_ne h.1 fun heq => ht (h.unique (standsAt_finish_iff.2 heq))

/-- What a scanner of the text reads stands where it was found. -/
theorem Scanner.Over.standsAt {s : Scanner} (h : s.Over q) (ht : s.next.1 = .ok t) :
    StandsAt q t s.next.2.start := by
  refine ⟨?_, ?_⟩
  · rw [← h.bound_eq]
    exact s.start_le_bound
  · rw [← h.dropWhile_eq]
    exact Scanner.first_of_next ht

end StandsAt

namespace Reader

variable {q : String} {r : Reader} {s s' : State} {e : ReadError} {t : Token}

/-! ## One step of a run -/

theorem run_of_reject {wanted : Expected} (h : s.step r.token = .reject wanted) :
    r.run s = (.error ⟨r.position, .unexpected wanted r.token⟩, r) := by
  rw [run]
  split
  · next w hw => rw [h] at hw; cases hw; rfl
  · next T hT => rw [h] at hT; cases hT
  · next s' hs => rw [h] at hs; cases hs

theorem run_of_complete {T : Tree} (h : s.step r.token = .complete T) : r.run s = (.ok T, r) := by
  rw [run]
  split
  · next w hw => rw [h] at hw; cases hw
  · next T' hT => rw [h] at hT; cases hT; rfl
  · next s' hs => rw [h] at hs; cases hs

theorem run_of_error (h : s.step r.token = .proceed s') (he : r.scanner.next.1 = .error e) :
    r.run s = (.error e, r.stuck) := by
  rw [run]
  split
  · next w hw => rw [h] at hw; cases hw
  · next T hT => rw [h] at hT; cases hT
  · split
    · next e' he' => rw [he] at he'; cases he'; rfl
    · next u hu => rw [he] at hu; cases hu

/-! ## Where a run stops -/

/-- A reader whose token is the one at its place. -/
structure InStep (q : String) (r : Reader) : Prop where
  /-- The scanner is one of the text. -/
  scans : Scanner.Over q r.scanner
  /-- The token stands where the reader says. -/
  token : StandsAt q r.token r.position

/-- A reader with the end of the query in the place of a reference or an
operand. -/
structure Lost (q : String) (r : Reader) : Prop where
  /-- The token is the end of the query. -/
  token : r.token = .finish
  /-- At the place stands the one that was taken. -/
  taken : ∃ t : Token, t.operand?.isSome ∧ StandsAt q t r.position

/-- **Where a run stops**: what it comes to, and the reader that it leaves. -/
inductive Stop (q : String) : Except ReadError Tree × Reader → Prop
  /-- A query was read up to the end of the text. -/
  | complete {T : Tree} {r : Reader} : InStep q r → r.token = .finish → Stop q (.ok T, r)
  /-- The token did not fit. -/
  | reject {wanted : Expected} {r : Reader} :
      InStep q r → Stop q (.error ⟨r.position, .unexpected wanted r.token⟩, r)
  /-- The token did fit, and the scanner failed behind it. -/
  | stuck {e : ReadError} {r : Reader} :
      InStep q r → r.scanner.next.1 = .error e → Stop q (.error e, r.stuck)

/-- **A run that starts in step** stops in one of these ways. The induction
is on the run. -/
theorem InStep.stop_run (h : InStep q r) (s : State) : Stop q (r.run s) := by
  fun_induction run r s with
  | case1 r s wanted hv => exact .reject h
  | case2 r s T hv => exact .complete h (State.step_eq_complete_iff.1 hv).1
  | case3 r s s' hv e hn => exact .stuck h hn
  | case4 r s s' hv t hn _ ih => exact ih ⟨h.scans.next, h.scans.standsAt hn⟩

/-- A reader that is lost is not in step. -/
theorem Lost.not_inStep (h : Lost q r) : ¬ InStep q r := by
  intro hin
  obtain ⟨t, ht, hstands⟩ := h.taken
  have heq := hin.token.unique hstands
  rw [h.token] at heq
  exact Token.ne_finish_of_operand? ht heq.symm

/-- It depends on the token whether a reader that is stuck is in step. -/
theorem InStep.stuck_iff (h : InStep q r) : InStep q r.stuck ↔ ¬ r.token.operand?.isSome := by
  constructor
  · intro hin ht
    have hlost : Lost q r.stuck := ⟨if_pos ht, r.token, ht, h.token⟩
    exact hlost.not_inStep hin
  · intro ht
    have htoken : r.stuck.token = r.token := if_neg ht
    exact ⟨h.scans.next, htoken ▸ h.token⟩

/-! ## Asked any number of times -/

/-- The reader behind a number of answers. -/
def later (r : Reader) (k : ℕ) : Reader :=
  (fun r => r.query.2)^[k] r

/-- What it answers next. -/
def answer (r : Reader) (k : ℕ) : Except ReadError Tree :=
  (r.later k).query.1

theorem later_succ (r : Reader) (k : ℕ) : r.later (k + 1) = (r.later k).query.2 :=
  Function.iterate_succ_apply' _ k r

/-- The end of the query starts no term, and the reader stays at it. -/
theorem query_of_finish (h : r.token = .finish) :
    r.query = (.error ⟨r.position, .unexpected .reference .finish⟩, r) := by
  have hreject : State.start.step r.token = .reject .reference := by
    rw [h]
    rfl
  rw [query, run_of_reject hreject, h]

/-- **What is answered once for good** is answered ever after. -/
theorem query_later_eq {i j : ℕ} (h : (r.later (i + 1)).query = (r.later i).query) (hij : i ≤ j) :
    (r.later j).query = (r.later i).query := by
  induction j, hij using Nat.le_induction with
  | base => rfl
  | succ j _ ih => rw [later_succ, ih, ← later_succ, h]

/-- So it is where the token is the end of the query. -/
theorem query_later_of_finish {i j : ℕ} (h : (r.later i).token = .finish) (hij : i ≤ j) :
    (r.later j).query =
      (.error ⟨(r.later i).position, .unexpected .reference .finish⟩, r.later i) := by
  have hquery := query_of_finish h
  rw [query_later_eq (by rw [later_succ, hquery]; exact hquery) hij, hquery]

/-! ## Readers that get lost -/

/-- **How a reader gets lost**: its query fails by the scanner, right behind a
reference or an operand. -/
def Loses (q : String) (r : Reader) : Prop :=
  ∃ e t, r.query.1 = .error e ∧ (∀ wanted found, e.cause ≠ .unexpected wanted found) ∧
    t.operand?.isSome ∧ StandsAt q t r.query.2.position

/-- It gets lost in no other way. -/
theorem InStep.query_iff (h : InStep q r) : InStep q r.query.2 ↔ ¬ Loses q r := by
  have hstop := h.stop_run .start
  change Stop q r.query at hstop
  rw [Loses]
  generalize r.query = stopped at hstop
  cases hstop with
  | complete hin hfinish =>
    refine ⟨fun _ => ?_, fun _ => hin⟩
    rintro ⟨e, t, he, -⟩
    cases he
  | reject hin =>
    refine ⟨fun _ => ?_, fun _ => hin⟩
    rintro ⟨e, t, he, hcause, -⟩
    cases he
    exact hcause _ _ rfl
  | @stuck e r' hin he =>
    rw [hin.stuck_iff, not_iff_not]
    constructor
    · intro ht
      exact ⟨e, r'.token, rfl, Scanner.cause_ne_unexpected he, ht, hin.token⟩
    · rintro ⟨-, t, -, -, ht, hstands⟩
      rwa [hin.token.unique hstands]

/-- A reader that leaves the step is lost. -/
theorem InStep.query (h : InStep q r) : InStep q r.query.2 ∨ Lost q r.query.2 := by
  have hstop := h.stop_run .start
  change Stop q r.query at hstop
  generalize r.query = stopped at hstop
  cases hstop with
  | complete hin _ => exact .inl hin
  | reject hin => exact .inl hin
  | @stuck e r' hin he =>
    by_cases ht : r'.token.operand?.isSome
    · exact .inr ⟨if_pos ht, r'.token, ht, hin.token⟩
    · exact .inl (hin.stuck_iff.2 ht)

/-- And it remains so. -/
theorem InStep.later (h : InStep q r) (k : ℕ) : InStep q (r.later k) ∨ Lost q (r.later k) := by
  induction k with
  | zero => exact .inl h
  | succ k ih =>
    rw [later_succ]
    rcases ih with hin | hlost
    · exact hin.query
    · rw [query_of_finish hlost.token]
      exact .inr hlost

/-- The reader of a text starts in step. -/
theorem inStep_ofText (h : Reader.ofText q = .ok r) : InStep q r := by
  obtain ⟨t, ht, rfl⟩ := Text.exists_of_map_eq_ok h
  have hover := Scanner.over_ofText q
  exact ⟨hover.next, hover.standsAt ht⟩

/-- **A reader is in step unless it has got lost.** In step, an error over a
token names the one that stands at its place, and the end of the query only
at the end of the text. A reader is out of step exactly if one of its
queries failed by the scanner, right behind a reference or an operand: at
its place that token stands, and all further answers miss a reference there
and find the end of the query. -/
theorem inStep_later_iff (h : Reader.ofText q = .ok r) (k : ℕ) :
    (InStep q (r.later k) ↔ ∀ i < k, ¬ Loses q (r.later i)) ∧
    (InStep q (r.later k) → ∀ p wanted t, r.answer k = .error ⟨p, .unexpected wanted t⟩ →
      StandsAt q t p ∧ (t = .finish → p = q.length)) ∧
    (¬ InStep q (r.later k) → ∃ t : Token, t.operand?.isSome ∧
      StandsAt q t (r.later k).position ∧ (r.later k).position < q.length ∧
      ∀ j, k ≤ j → r.answer j =
        .error ⟨(r.later k).position, .unexpected .reference .finish⟩) := by
  have hin := inStep_ofText h
  refine ⟨?_, fun hk p wanted t ht => ?_, fun hk => ?_⟩
  · induction k with
    | zero => exact ⟨fun _ => nofun, fun _ => hin⟩
    | succ k ih =>
      rw [Nat.forall_lt_succ_right, ← ih, later_succ]
      rcases hin.later k with hk | hlost
      · rw [hk.query_iff]
        exact ⟨fun hl => ⟨hk, hl⟩, fun hl => hl.2⟩
      · rw [query_of_finish hlost.token]
        exact ⟨fun hk => absurd hk hlost.not_inStep, fun hk => hk.1⟩
  · have hstop := hk.stop_run .start
    change Stop q (r.later k).query at hstop
    rw [answer] at ht
    generalize (r.later k).query = stopped at hstop ht
    cases hstop with
    | complete => cases ht
    | reject hin =>
      cases ht
      exact ⟨hin.token, fun hfinish => standsAt_finish_iff.1 (hfinish ▸ hin.token)⟩
    | stuck hin he =>
      cases ht
      exact absurd rfl (Scanner.cause_ne_unexpected he _ _)
  · have hlost := (hin.later k).resolve_left hk
    obtain ⟨t, ht, hstands⟩ := hlost.taken
    refine ⟨t, ht, hstands, hstands.lt (Token.ne_finish_of_operand? ht), fun j hj => ?_⟩
    rw [answer, query_later_of_finish hlost.token hj]

/-- A dollar sign without a number behind a NOT does not lose the reader. The
NOT is read again, and the end of the query is found where it is. -/
theorem inStep_behind_not :
    ∃ r, Reader.ofText "NOT $" = .ok r ∧ r.answer 0 = .error ⟨4, .missingIndex⟩ ∧
      InStep "NOT $" (r.later 1) ∧ r.answer 1 = .error ⟨5, .unexpected .reference .finish⟩ ∧
      StandsAt "NOT $" .finish 5 := by
  have hread : Reader.ofText "NOT $" = .ok ⟨⟨[' ', '$'], 3, 0⟩, .not, 0⟩ := by cbv
  have hfirst : answer ⟨⟨[' ', '$'], 3, 0⟩, .not, 0⟩ 0 = .error ⟨4, .missingIndex⟩ := by cbv
  have hsecond : answer ⟨⟨[' ', '$'], 3, 0⟩, .not, 0⟩ 1 =
      .error ⟨5, .unexpected .reference .finish⟩ := by cbv
  have hplace : (later ⟨⟨[' ', '$'], 3, 0⟩, .not, 0⟩ 1).position = 0 := by cbv
  have hnot : StandsAt "NOT $" .not 0 := ⟨by decide, by cbv⟩
  obtain ⟨hiff, hnames, -⟩ := inStep_later_iff hread 1
  have hin := hiff.2 fun i hi => by
    obtain rfl := Nat.lt_one_iff.1 hi
    rintro ⟨e, t, -, -, ht, hstands⟩
    rw [← later_succ, hplace] at hstands
    obtain rfl := hnot.unique hstands
    cases ht
  exact ⟨_, hread, hfirst, hin, hsecond, (hnames hin _ _ _ hsecond).1⟩

/-- A character that starts no token loses it behind a name. The place of the
next error is that of the name, and it has the end of the query there. -/
theorem lost_behind_name :
    ∃ r, Reader.ofText "a #" = .ok r ∧ r.answer 0 = .error ⟨2, .strayCharacter '#'⟩ ∧
      StandsAt "a #" (.name "a") (r.later 1).position ∧ ¬ InStep "a #" (r.later 1) ∧
      r.answer 1 = .error ⟨0, .unexpected .reference .finish⟩ := by
  have hread : Reader.ofText "a #" = .ok ⟨⟨[' ', '#'], 1, 0⟩, .name "a", 0⟩ := by cbv
  have hlater : later ⟨⟨[' ', '#'], 1, 0⟩, .name "a", 0⟩ 1 = ⟨⟨['#'], 2, 2⟩, .finish, 0⟩ := by cbv
  have hname : StandsAt "a #" (.name "a") 0 := ⟨by decide, by cbv⟩
  refine ⟨_, hread, by cbv, by rwa [hlater], ?_, by cbv⟩
  rw [hlater]
  intro hin
  exact absurd (hin.token.unique hname) (by simp)

/-! ## Answers that settle -/

/-- A reader of a text has no more to read than the text. -/
theorem size_ofText (h : Reader.ofText q = .ok r) : r.size ≤ q.length := by
  obtain ⟨t, ht, rfl⟩ := Text.exists_of_map_eq_ok h
  have hlen : (Scanner.ofText q).rest.length = q.length := String.length_toList
  rw [size]
  by_cases hfinish : t = .finish
  · rw [if_pos hfinish]
    have hle := (Scanner.ofText q).length_next_le
    change (Scanner.ofText q).next.2.rest.length + 0 ≤ _
    omega
  · rw [if_neg hfinish]
    exact hlen ▸ Scanner.length_next ht hfinish

/-- A reader that is stuck has less to read, unless it stays where it is and
gets stuck in the same way again. -/
theorem size_stuck (hs : s.step r.token = .proceed s') (he : r.scanner.next.1 = .error e) :
    r.stuck.size < r.size ∨ r.stuck.size = r.size ∧ r.stuck.run s = (.error e, r.stuck) := by
  have hne : r.token ≠ .finish := fun h => s.step_finish_ne_proceed s' (h ▸ hs)
  have hle := r.scanner.length_next_le
  have hsize : r.size = r.scanner.rest.length + 1 := by rw [size, if_neg hne]
  by_cases ht : r.token.operand?.isSome
  · -- the token is gone
    left
    have htoken : r.stuck.token = .finish := if_pos ht
    rw [size, if_pos htoken, hsize]
    exact Nat.lt_succ_of_le hle
  · have htoken : r.stuck.token = r.token := if_neg ht
    have hstuck : r.stuck.size = r.scanner.next.2.rest.length + 1 := by
      rw [size, htoken, if_neg hne]
      rfl
    rcases Nat.lt_or_ge r.scanner.next.2.rest.length r.scanner.rest.length with hlt | hge
    · left
      omega
    · right
      have hnext := Scanner.next_of_stands (Scanner.stands_of_length hge)
      refine ⟨by omega, ?_⟩
      have hscanner : r.stuck.scanner.next = r.scanner.next := hnext
      have hagain : r.stuck.stuck = r.stuck := by
        rw [stuck, hscanner, htoken, stuck, if_neg ht]
      rw [run_of_error (htoken ▸ hs) (hscanner ▸ he), hagain]

/-- **A run leaves less to read, or comes to the same again.** The induction
is on the run: behind a token that was fetched less is left already. -/
theorem size_run (r : Reader) (s : State) :
    (r.run s).2.size < r.size ∨
      (r.run s).2.size = r.size ∧ (r.run s).2.run s = r.run s := by
  fun_induction run r s with
  | case1 r s wanted hv => exact .inr ⟨rfl, run_of_reject hv⟩
  | case2 r s T hv => exact .inr ⟨rfl, run_of_complete hv⟩
  | case3 r s s' hv e hn => exact size_stuck hv hn
  | case4 r s s' hv t hn hlt ih =>
    left
    rcases ih with hless | ⟨hsame, -⟩
    · exact Nat.lt_trans hless hlt
    · exact hsame ▸ hlt

/-- **A reader settles** within as many answers as it has to read. The
induction is on that. -/
theorem exists_settled (r : Reader) :
    ∃ k ≤ r.size, (r.later (k + 1)).query = (r.later k).query := by
  induction hn : r.size using Nat.strong_induction_on generalizing r with
  | _ n ih =>
    subst hn
    rcases r.size_run .start with hlt | ⟨-, hsame⟩
    · obtain ⟨k, hk, hquery⟩ := ih r.query.2.size hlt r.query.2 rfl
      exact ⟨k + 1, Nat.succ_le_of_lt (Nat.lt_of_le_of_lt hk hlt), hquery⟩
    · exact ⟨0, Nat.zero_le _, hsame⟩

/-- A query that was read is behind the reader, at the end of the text. -/
theorem InStep.of_answer_ok {T : Tree} (h : InStep q r) (hT : r.query.1 = .ok T) :
    r.query.2.token = .finish ∧ r.query.2.position = q.length := by
  have hstop := h.stop_run .start
  change Stop q r.query at hstop
  generalize r.query = stopped at hstop hT
  cases hstop with
  | complete hin hfinish => exact ⟨hfinish, standsAt_finish_iff.1 (hfinish ▸ hin.token)⟩
  | reject => cases hT
  | stuck => cases hT

/-- **The answers of a reader settle.** Behind a query that was read, each
answer is that a reference is missing at the end of the text; so there is
one query at most. Behind as many answers as the text has characters, they
do not change any more, so that no answers come in turns. -/
theorem answers_settle (h : Reader.ofText q = .ok r) :
    (∀ i T, r.answer i = .ok T → ∀ j, i < j →
      r.answer j = .error ⟨q.length, .unexpected .reference .finish⟩) ∧
    (∀ i j T U, r.answer i = .ok T → r.answer j = .ok U → i = j) ∧
    (∀ j, q.length ≤ j → r.answer j = r.answer q.length) ∧
    (∀ i period, 0 < period → (∀ j, i ≤ j → r.answer (j + period) = r.answer j) →
      ∀ j, i ≤ j → r.answer j = r.answer i) ∧
    (ReadError.Cause.unexpected .reference .finish).describe =
      "Expected column reference, got end of input" := by
  have hbehind : ∀ i T, r.answer i = .ok T → ∀ j, i < j →
      r.answer j = .error ⟨q.length, .unexpected .reference .finish⟩ := by
    intro i T hT j hij
    rcases (inStep_ofText h).later i with hin | hlost
    · obtain ⟨hfinish, hposition⟩ := hin.of_answer_ok hT
      rw [← later_succ] at hfinish hposition
      rw [answer, query_later_of_finish hfinish hij, hposition]
    · rw [answer, query_of_finish hlost.token] at hT
      cases hT
  have hsettled : ∀ j, q.length ≤ j → r.answer j = r.answer q.length := by
    intro j hj
    obtain ⟨k, hk, hquery⟩ := r.exists_settled
    have hlen := Nat.le_trans hk (size_ofText h)
    rw [answer, answer, query_later_eq hquery hlen, query_later_eq hquery (hlen.trans hj)]
  refine ⟨hbehind, fun i j T U hT hU => ?_, hsettled, fun i period hpos hturn => ?_, by decide⟩
  · rcases Nat.lt_trichotomy i j with hij | hij | hij
    · rw [hbehind i T hT j hij] at hU
      cases hU
    · exact hij
    · rw [hbehind j U hU i hij] at hT
      cases hT
  · -- every answer comes again where the answers have settled
    have hagain : ∀ m j, i ≤ j → r.answer (j + m * period) = r.answer j := by
      intro m j hj
      induction m with
      | zero => rw [Nat.zero_mul, Nat.add_zero]
      | succ m ih => rw [Nat.succ_mul, ← Nat.add_assoc, hturn _ (by omega), ih]
    have hlast : ∀ j, i ≤ j → r.answer j = r.answer q.length := fun j hj => by
      have hle : q.length ≤ j + q.length * period :=
        Nat.le_add_left_of_le (Nat.le_mul_of_pos_right _ hpos)
      rw [← hagain q.length j hj, hsettled _ hle]
    exact fun j hj => (hlast j hj).trans (hlast i (Nat.le_refl i)).symm

/-- An error, then a query, and the end of the text ever after. -/
theorem answers_settle_behind_error :
    ∃ r, Reader.ofText "NOT $ a = 'x'" = .ok r ∧ r.answer 0 = .error ⟨4, .missingIndex⟩ ∧
      r.answer 1 = .ok [[.negation (.comparison ⟨.name "a", .equal, .text "x"⟩)]] ∧
      ∀ j, 1 < j → r.answer j = .error ⟨13, .unexpected .reference .finish⟩ := by
  have hread : Reader.ofText "NOT $ a = 'x'" = .ok ⟨⟨" $ a = 'x'".toList, 3, 0⟩, .not, 0⟩ := by
    cbv
  have hquery : answer ⟨⟨" $ a = 'x'".toList, 3, 0⟩, .not, 0⟩ 1 =
      .ok [[.negation (.comparison ⟨.name "a", .equal, .text "x"⟩)]] := by
    cbv
  exact ⟨_, hread, by cbv, hquery, (answers_settle hread).1 1 _ hquery⟩

end Reader

end Query

end RowQuery
