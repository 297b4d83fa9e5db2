import Mathlib
import RowQuery.Proofs.Recognition
import RowQuery.Proofs.Scanning
/-!
# What reading a query comes to

The reader takes its tokens one at a time, and never one that it does not
need. `Outcome` tells what comes of it by the tokens of the whole text:
they lead to the end, or to one that is rejected, or to the place where
there is no token. From this, `Query.read_iff_derives` is that the grammar
decides what is read, and `Query.leftmost_error` that an error stands at the
first place where no query can go on.
-/

namespace RowQuery

namespace Query

/-- What comes of a state and the tokens behind it. The `failure` is what
stands in the place of a further token, unless the text is at its end. -/
inductive Outcome (s : State) (stream : List (Token × ℕ)) (failure : Option ReadError) :
    Except ReadError Tree → Prop
  /-- All tokens fit, and the end of the text completes the query. -/
  | complete (before : List (Token × ℕ)) {p : ℕ} {s' : State} {q : Tree} :
      stream = before ++ [(.finish, p)] → failure = none →
      s.after (before.map Prod.fst) = some s' → s'.step .finish = .complete q →
      Outcome s stream failure (.ok q)
  /-- A token does not fit behind those before it. -/
  | reject (before : List (Token × ℕ)) {rest : List (Token × ℕ)} {t : Token} {p : ℕ}
      {s' : State} {wanted : Expected} :
      stream = before ++ (t, p) :: rest →
      s.after (before.map Prod.fst) = some s' → s'.step t = .reject wanted →
      Outcome s stream failure (.error ⟨p, .unexpected wanted t⟩)
  /-- All tokens fit, and there is no further one. -/
  | failed {s' : State} {e : ReadError} :
      failure = some e → s.after (stream.map Prod.fst) = some s' →
      Outcome s stream failure (.error e)

/-- A token that makes a transition only comes before the rest. -/
theorem Outcome.cons {s s' : State} {t : Token} {p : ℕ} {stream : List (Token × ℕ)}
    {failure : Option ReadError} {o : Except ReadError Tree} (hn : State.Next s t s')
    (h : Outcome s' stream failure o) : Outcome s ((t, p) :: stream) failure o := by
  cases h with
  | @complete before n _ q hs hf ha hc =>
    subst hs
    exact .complete ((t, p) :: before) rfl hf (State.after_cons_iff.2 ⟨s', hn, ha⟩) hc
  | @reject before rest u n _ wanted hs ha hr =>
    subst hs
    exact .reject ((t, p) :: before) rfl (State.after_cons_iff.2 ⟨s', hn, ha⟩) hr
  | failed hf ha => exact .failed hf (State.after_cons_iff.2 ⟨s', hn, ha⟩)

namespace Reader

variable {r : Reader}

/-- The tokens that a reader has before it. -/
def stream (r : Reader) : List (Token × ℕ) :=
  (r.token, r.position) :: if r.token = .finish then [] else r.scanner.sweep.1

/-- The error behind them. -/
def failure (r : Reader) : Option ReadError :=
  if r.token = .finish then none else r.scanner.sweep.2

/-- The reader at the next token has before it what the scanner sweeps. -/
theorem sweep_eq {s : Scanner} {t : Token} (h : s.next.1 = .ok t) :
    s.sweep = (stream ⟨s.next.2, t, s.next.2.start⟩, failure ⟨s.next.2, t, s.next.2.start⟩) := by
  by_cases ht : t = .finish
  · subst ht
    exact Scanner.sweep_of_finish h
  · rw [Scanner.sweep_of_ok h ht, stream, failure, if_neg ht, if_neg ht]

/-- **A run comes to what its tokens come to.** The induction is on the
run. -/
theorem run_outcome (r : Reader) (s : State) : Outcome s r.stream r.failure (r.run s).1 := by
  fun_induction run r s with
  | case1 r s wanted hv => exact .reject [] rfl rfl hv
  | case2 r s q hv =>
    have hfin := (State.step_eq_complete_iff.1 hv).1
    rw [hfin] at hv
    refine .complete [] (p := r.position) ?_ ?_ rfl hv
    · rw [stream, hfin, if_pos rfl]
      rfl
    · rw [failure, if_pos hfin]
  | case3 r s s' hv e hn =>
    have hne : r.token ≠ .finish := fun h => s.step_finish_ne_proceed s' (h ▸ hv)
    rw [stream, failure, if_neg hne, if_neg hne, Scanner.sweep_of_error hn]
    exact .cons (State.step_eq_proceed_iff.1 hv) (.failed rfl rfl)
  | case4 r s s' hv t hn _ ih =>
    have hne : r.token ≠ .finish := fun h => s.step_finish_ne_proceed s' (h ▸ hv)
    rw [stream, failure, if_neg hne, if_neg hne, sweep_eq hn]
    exact .cons (State.step_eq_proceed_iff.1 hv) ih

end Reader

/-- **Reading a text comes to what its tokens come to** from the start. -/
theorem read_outcome (q : String) :
    Outcome .start (Scanner.ofText q).sweep.1 (Scanner.ofText q).sweep.2 (read q) := by
  rw [read, Reader.ofText]
  cases h : (Scanner.ofText q).next.1 with
  | error e =>
    rw [Scanner.sweep_of_error h]
    simp only [h]
    exact .failed rfl rfl
  | ok t =>
    rw [Reader.sweep_eq h]
    simp only [h]
    exact Reader.run_outcome _ _

/-! ## What is read -/

/-- What was read derives from all tokens before the end. -/
theorem derives_of_read {q : String} {T : Tree} (h : read q = .ok T) :
    ∃ words n, (Scanner.ofText q).tokens = .ok (words ++ [(.finish, n)]) ∧
      Derives (words.map Prod.fst) (.query T) := by
  have ho := read_outcome q
  rw [h] at ho
  cases ho with
  | @complete before n s' _ hs hf ha hc =>
    obtain ⟨-, l, rfl, htree⟩ := State.step_eq_complete_iff.1 hc
    refine ⟨before, n, ?_, derives_iff.2 ⟨l, ha, htree⟩⟩
    rw [Scanner.tokens_eq_sweep, hf, hs]

/-- **And what derives from them is read.** The reader completes a query by
the tree that the tokens derive, since there is only one; and it rejects no
token, since the query is a way to go on. -/
theorem read_of_derives {q : String} {T : Tree} {words : List (Token × ℕ)} {n : ℕ}
    (h : (Scanner.ofText q).tokens = .ok (words ++ [(.finish, n)]))
    (hT : Derives (words.map Prod.fst) (.query T)) : read q = .ok T := by
  have ho := read_outcome q
  rw [Scanner.sweep_of_tokens h] at ho
  generalize read q = o at ho
  cases ho with
  | @complete before p s' T' hs _ ha hc =>
    obtain ⟨rfl, -⟩ := List.append_inj' hs rfl
    obtain ⟨-, l, rfl, htree⟩ := State.step_eq_complete_iff.1 hc
    rw [derives_unique hT (derives_iff.2 ⟨l, ha, htree⟩)]
  | @reject before rest t p s' wanted hs ha hr =>
    exfalso
    -- the rejected token is the last one, the end, or one of the query
    rcases rest.eq_nil_or_concat' with rfl | ⟨rest, a, rfl⟩
    · obtain ⟨rfl, hlast⟩ := List.append_inj' hs rfl
      cases hlast
      exact not_derives_of_reject_finish ha hr T hT
    · rw [← List.cons_append, ← List.append_assoc] at hs
      obtain ⟨rfl, -⟩ := List.append_inj' hs rfl
      rw [List.map_append, List.map_cons] at hT
      exact not_derives_of_reject ha hr _ T hT
  | failed hf => cases hf

/-- **The grammar decides what is read**: exactly the texts that have
tokens, all of which together derive a query, and the query is the only one
that they derive. -/
theorem read_iff_derives (q : String) (T : Tree) :
    (read q = .ok T ↔
      ∃ words n, (Scanner.ofText q).tokens = .ok (words ++ [(.finish, n)]) ∧
        Derives (words.map Prod.fst) (.query T)) ∧
    (∀ ts T', Derives ts (.query T) → Derives ts (.query T') → T = T') ∧
    ∀ e, (Scanner.ofText q).tokens = .error e → read q ≠ .ok T := by
  refine ⟨⟨derives_of_read, ?_⟩, fun ts T' h h' => derives_unique h h', ?_⟩
  · rintro ⟨words, n, h, hT⟩
    exact read_of_derives h hT
  · intro e he hread
    obtain ⟨words, n, h, -⟩ := derives_of_read hread
    rw [he] at h
    cases h

/-! ## Where an error is -/

/-- The tokens of a text that start before a place. -/
def tokensBefore (q : String) (p : ℕ) : List Token :=
  ((Scanner.ofText q).sweep.1.filter (·.2 < p)).map Prod.fst

/-- Where starts increase, those before a start are the ones in front. -/
theorem filter_start_lt {before rest : List (Token × ℕ)} {t : Token} {p : ℕ}
    (h : (before ++ (t, p) :: rest).Pairwise fun a b => a.2 < b.2) :
    (before ++ (t, p) :: rest).filter (·.2 < p) = before := by
  obtain ⟨-, hrest, hbefore⟩ := List.pairwise_append.1 h
  have hb : before.filter (·.2 < p) = before :=
    List.filter_eq_self.2 fun a ha => decide_eq_true (hbefore a ha (t, p) List.mem_cons_self)
  have hr : ((t, p) :: rest).filter (·.2 < p) = [] := by
    rw [List.filter_eq_nil_iff]
    rintro a (_ | ⟨_, ha⟩)
    · simp
    · have hlt := (List.pairwise_cons.1 hrest).1 a ha
      simp only [decide_eq_true_eq]
      omega
  rw [List.filter_append, hb, hr, List.append_nil]

/-- So the tokens before a token of the text are those in front of it. -/
theorem tokensBefore_start {q : String} {before rest : List (Token × ℕ)} {t : Token} {p : ℕ}
    (hs : (Scanner.ofText q).sweep.1 = before ++ (t, p) :: rest) :
    tokensBefore q p = before.map Prod.fst := by
  have hpair := (Scanner.ofText q).pairwise_sweep
  rw [hs] at hpair
  rw [tokensBefore, hs, filter_start_lt hpair]

/-- And all tokens are before the error that stops the sweep. -/
theorem tokensBefore_error {q : String} {e : ReadError}
    (he : (Scanner.ofText q).sweep.2 = some e) :
    tokensBefore q e.position = (Scanner.ofText q).sweep.1.map Prod.fst := by
  have hlt := (Scanner.position_of_sweep_error he).1
  rw [tokensBefore, List.filter_eq_self.2 fun a ha => decide_eq_true (hlt a ha)]

/-- **An error stands at the leftmost place there is.** The tokens before
it can go on to a query, so no earlier place will do. At it there is either
no token, and the error is the one that the scanner has there; or a token
with which no query goes on; or the end of the text, and the tokens are no
query as they stand. -/
theorem leftmost_error {q : String} {e : ReadError} (he : read q = .error e) :
    (∃ us T, Derives (tokensBefore q e.position ++ us) (.query T)) ∧
    ((Scanner.ofText q).tokens = .error e ∨
      ∃ t wanted, e.cause = .unexpected wanted t ∧
        (t, e.position) ∈ (Scanner.ofText q).sweep.1 ∧
        (t ≠ .finish → ∀ us T, ¬ Derives (tokensBefore q e.position ++ t :: us) (.query T)) ∧
        (t = .finish → e.position = q.length ∧
          ∀ T, ¬ Derives (tokensBefore q e.position) (.query T))) ∧
    e.position ≤ q.length := by
  have ho := read_outcome q
  rw [he] at ho
  cases ho with
  | @reject before rest t p s' wanted hs ha hr =>
    have hmem : (t, p) ∈ (Scanner.ofText q).sweep.1 := by
      rw [hs]
      exact List.mem_append_right _ List.mem_cons_self
    have hle := (Scanner.start_of_mem_sweep hmem).2
    rw [Scanner.bound_ofText] at hle
    rw [tokensBefore_start hs]
    refine ⟨exists_derives_of_after ha, .inr ⟨t, wanted, rfl, hmem, ?_, ?_⟩, hle⟩
    · intro _
      exact not_derives_of_reject ha hr
    · -- had the tokens been a query, the end would have completed it
      rintro rfl
      refine ⟨?_, not_derives_of_reject_finish ha hr⟩
      rw [← Scanner.bound_ofText]
      exact Scanner.start_of_finish_mem_sweep hmem
  | failed hf ha =>
    have hle := (Scanner.position_of_sweep_error hf).2.2
    rw [Scanner.bound_ofText] at hle
    rw [tokensBefore_error hf]
    refine ⟨exists_derives_of_after ha, .inl ?_, hle⟩
    rw [Scanner.tokens_eq_sweep, hf]

/-- Of two errors in a text the first is found, here a second operand; the
scanner would have failed behind it. -/
theorem leftmost_error_of_two :
    read "$1 = 'x' 'y' $" = .error ⟨9, .unexpected .joint (.text "y")⟩ ∧
      (Scanner.ofText "$1 = 'x' 'y' $").tokens = .error ⟨13, .missingIndex⟩ ∧
      (∃ us T, Derives (tokensBefore "$1 = 'x' 'y' $" 9 ++ us) (.query T)) ∧
      ∀ us T, ¬ Derives (tokensBefore "$1 = 'x' 'y' $" 9 ++ .text "y" :: us) (.query T) := by
  have h : read "$1 = 'x' 'y' $" = .error ⟨9, .unexpected .joint (.text "y")⟩ := by cbv
  have hscan : (Scanner.ofText "$1 = 'x' 'y' $").tokens = .error ⟨13, .missingIndex⟩ := by cbv
  obtain ⟨hbefore, hplace, -⟩ := leftmost_error h
  rcases hplace with hsame | ⟨t, wanted, hcause, -, hdead, -⟩
  · rw [hscan] at hsame
    cases hsame
  · cases hcause
    exact ⟨h, hscan, hbefore, hdead (by simp)⟩

end Query

end RowQuery
