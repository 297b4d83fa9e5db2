import RowQuery.Query.Scanner
import Mathlib.Data.List.Basic
/-!
# Where tokens stand

A scanner only moves forward: a token starts at or behind the place where
the scanner stood, takes at least one character unless it is the end, and
the end of the text stays where it is (`Scanner.bound_next`). `sweep` takes
all tokens up to the first error and keeps them when there is one. Their
starts increase (`Scanner.pairwise_sweep`), an error stands behind them
(`Scanner.position_of_sweep_error`), and none is past the end of the text.
-/

namespace RowQuery

namespace Query

/-- No word is the end of the query. -/
theorem Token.ofWord_ne_finish (word : List Char) : Token.ofWord word ≠ .finish := by
  rw [ofWord]
  split
  · next k t h =>
    have hmem := List.mem_of_find?_eq_some h
    rintro rfl
    simp [keywords] at hmem
  · simp

namespace Lexeme

/-- A quoted text takes no more than there is. -/
theorem length_ofQuoted_le (quote : Char) (token : String → Token) (unclosed : ReadError.Cause)
    (rest : List Char) : (ofQuoted quote token unclosed rest).length ≤ rest.length + 1 := by
  rw [ofQuoted]
  split
  · next body after h =>
    have hlen := congrArg List.length (Text.eq_of_body?_eq_some h)
    simp only [List.length_append, List.length_cons] at hlen
    change body.length + 2 ≤ rest.length + 1
    omega
  · exact Nat.le_refl _

/-- Nor does a run of characters behind the first. -/
theorem length_takeWhile_le (p : Char → Bool) (rest : List Char) :
    (rest.takeWhile p).length ≤ rest.length :=
  (List.takeWhile_sublist p).length_le

/-- **A lexeme takes no more than the text has.** -/
theorem length_first_le (text : List Char) : (first text).length ≤ text.length := by
  fun_cases first text with
  | case2 rest => exact Nat.succ_le_succ (length_takeWhile_le _ rest)
  | case3 rest => exact length_ofQuoted_le '"' .quotedName .unclosedName rest
  | case4 rest => exact length_ofQuoted_le '\'' .text .unclosedText rest
  | case14 c rest => exact Nat.succ_le_succ (length_takeWhile_le _ rest)
  -- the others are symbols, and there is one case for each
  | _ => simp

/-- A dollar sign does not start the end of the query. -/
theorem outcome_ofDollar_ne_finish (rest : List Char) :
    (ofDollar rest).outcome ≠ .ok .finish := by
  simp only [ofDollar]
  split
  · simp
  · split <;> simp

/-- Nor does a quote. -/
theorem outcome_ofQuoted_ne_finish {quote : Char} {token : String → Token}
    {unclosed : ReadError.Cause} {rest : List Char} (ht : ∀ s, token s ≠ .finish) :
    (ofQuoted quote token unclosed rest).outcome ≠ .ok .finish := by
  rw [ofQuoted]
  split
  · exact fun h => ht _ (Except.ok.inj h)
  · simp

/-- **Only the empty text starts with the end of the query.** -/
theorem eq_nil_of_finish {text : List Char} (h : (first text).outcome = .ok .finish) :
    text = [] := by
  revert h
  fun_cases first text with
  | case1 => exact fun _ => rfl
  | case2 rest => exact fun h => absurd h (outcome_ofDollar_ne_finish rest)
  | case3 rest => exact fun h => absurd h (outcome_ofQuoted_ne_finish (by simp))
  | case4 rest => exact fun h => absurd h (outcome_ofQuoted_ne_finish (by simp))
  | case14 c rest => exact fun h => absurd (Except.ok.inj h) (Token.ofWord_ne_finish _)
  | _ => simp

end Lexeme

namespace Scanner

variable {s : Scanner}

/-! ## One token -/

/-- The end of the text, counted from where its start was. -/
def bound (s : Scanner) : ℕ :=
  s.position + s.rest.length

/-- The end of a whole text is the number of its characters. -/
theorem bound_ofText (q : String) : (ofText q).bound = q.length := by
  simp [bound, ofText, String.length_toList]

/-- A token starts where the scanner stands, or behind white space. -/
theorem position_le_start (s : Scanner) : s.position ≤ s.next.2.start := by
  simp only [next]
  omega

/-- The scanner stands behind it afterwards. -/
theorem start_le_position (s : Scanner) : s.next.2.start ≤ s.next.2.position := by
  simp only [next]
  omega

/-- What is left is white space and what is behind it. -/
theorem length_rest (s : Scanner) :
    s.rest.length = (s.rest.takeWhile Unicode.isWhiteSpace).length +
      (s.rest.dropWhile Unicode.isWhiteSpace).length := by
  rw [← List.length_append, List.takeWhile_append_dropWhile]

/-- **The end of the text stays where it is.** -/
theorem bound_next (s : Scanner) : s.next.2.bound = s.bound := by
  have hrest := length_rest s
  have hle := Lexeme.length_first_le (s.rest.dropWhile Unicode.isWhiteSpace)
  simp only [bound, next, List.length_drop]
  omega

/-- So no token starts past it. -/
theorem start_le_bound (s : Scanner) : s.next.2.start ≤ s.bound := by
  have hpos := start_le_position s
  have hbound := bound_next s
  simp only [bound] at hbound ⊢
  omega

/-- What the next token is, depends on the text behind white space. -/
theorem first_of_next {t : Token} (h : s.next.1 = .ok t) :
    (Lexeme.first (s.rest.dropWhile Unicode.isWhiteSpace)).outcome = .ok t := by
  simp only [next] at h
  cases ho : (Lexeme.first (s.rest.dropWhile Unicode.isWhiteSpace)).outcome with
  | error e => rw [ho] at h; cases h
  | ok u => rw [ho] at h; exact congrArg Except.ok (Except.ok.inj h)

/-- **A token takes characters**, the end apart. -/
theorem start_lt_position {t : Token} (h : s.next.1 = .ok t) (ht : t ≠ .finish) :
    s.next.2.start < s.next.2.position := by
  have hlen := Lexeme.length_first (first_of_next h) ht
  simp only [next]
  omega

/-- The end of the query is found at the end of the text. -/
theorem start_of_finish (h : s.next.1 = .ok .finish) : s.next.2.start = s.bound := by
  have hnil := Lexeme.eq_nil_of_finish (first_of_next h)
  have hrest := length_rest s
  rw [hnil, List.length_nil] at hrest
  simp only [bound, next]
  omega

/-- An error is where the token would have started. -/
theorem position_of_error {e : ReadError} (h : s.next.1 = .error e) :
    e.position = s.next.2.start := by
  simp only [next] at h ⊢
  cases ho : (Lexeme.first (s.rest.dropWhile Unicode.isWhiteSpace)).outcome with
  | error c => rw [ho] at h; cases h; rfl
  | ok u => rw [ho] at h; cases h

/-! ## All tokens -/

/-- The tokens of a text with their starts, up to the end of the query or to
the first error, and that error. -/
def sweep (s : Scanner) : List (Token × ℕ) × Option ReadError :=
  match h : s.next.1 with
  | .error e => ([], some e)
  | .ok t =>
    if ht : t = .finish then ([(t, s.next.2.start)], none)
    else
      have := length_next h ht
      ((t, s.next.2.start) :: s.next.2.sweep.1, s.next.2.sweep.2)
termination_by s.rest.length

/-- An error ends the sweep. -/
theorem sweep_of_error {e : ReadError} (h : s.next.1 = .error e) : s.sweep = ([], some e) := by
  rw [sweep]
  split
  · next e' he => rw [h] at he; cases he; rfl
  · next t ht => rw [h] at ht; cases ht

/-- And so does the end of the query. -/
theorem sweep_of_finish (h : s.next.1 = .ok .finish) :
    s.sweep = ([(.finish, s.next.2.start)], none) := by
  rw [sweep]
  split
  · next e he => rw [h] at he; cases he
  · next t ht => rw [h] at ht; cases ht; rfl

/-- Any other token is followed by the sweep behind it. -/
theorem sweep_of_ok {t : Token} (h : s.next.1 = .ok t) (ht : t ≠ .finish) :
    s.sweep = ((t, s.next.2.start) :: s.next.2.sweep.1, s.next.2.sweep.2) := by
  rw [sweep]
  split
  · next e he => rw [h] at he; cases he
  · next u hu => rw [h] at hu; cases hu; rw [dif_neg ht]

/-- **Induction along a sweep**: by the error or the end that stops it, or
the token that it passes. -/
theorem sweep_induction {P : Scanner → Prop} (error : ∀ s e, s.next.1 = .error e → P s)
    (finish : ∀ s, s.next.1 = .ok .finish → P s)
    (ok : ∀ s t, s.next.1 = .ok t → t ≠ .finish → P s.next.2 → P s) (s : Scanner) : P s := by
  cases h : s.next.1 with
  | error e => exact error s e h
  | ok t =>
    by_cases ht : t = .finish
    · exact finish s (ht ▸ h)
    · have := length_next h ht
      exact ok s t h ht (sweep_induction error finish ok s.next.2)
termination_by s.rest.length

/-- **The sweep has the tokens of the text**, or the error in their place. -/
theorem tokens_eq_sweep (s : Scanner) :
    s.tokens = match s.sweep.2 with
      | some e => .error e
      | none => .ok s.sweep.1 := by
  induction s using sweep_induction with
  | error s e h =>
    rw [tokens, sweep_of_error h]
    split
    · next e' he => rw [h] at he; cases he; rfl
    · next t ht => rw [h] at ht; cases ht
  | finish s h =>
    rw [tokens, sweep_of_finish h]
    split
    · next e he => rw [h] at he; cases he
    · next t ht => rw [h] at ht; cases ht; rfl
  | ok s t h ht ih =>
    rw [tokens, sweep_of_ok h ht]
    split
    · next e he => rw [h] at he; cases he
    · next u hu =>
      rw [h] at hu
      cases hu
      rw [dif_neg ht, ih]
      cases s.next.2.sweep.2 <;> rfl

/-- A text that has tokens is swept without an error. -/
theorem sweep_of_tokens {ts : List (Token × ℕ)} (h : s.tokens = .ok ts) : s.sweep = (ts, none) := by
  rw [tokens_eq_sweep] at h
  generalize s.sweep = swept at h ⊢
  obtain ⟨us, _ | e⟩ := swept <;> cases h
  rfl

/-- All starts lie between where the scanner stands and the end of the
text. -/
theorem start_of_mem_sweep {a : Token × ℕ} (ha : a ∈ s.sweep.1) :
    s.position ≤ a.2 ∧ a.2 ≤ s.bound := by
  induction s using sweep_induction with
  | error s e h => rw [sweep_of_error h] at ha; cases ha
  | finish s h =>
    rw [sweep_of_finish h, List.mem_singleton] at ha
    subst ha
    exact ⟨s.position_le_start, s.start_le_bound⟩
  | ok s t h ht ih =>
    rw [sweep_of_ok h ht, List.mem_cons] at ha
    rcases ha with rfl | ha
    · exact ⟨s.position_le_start, s.start_le_bound⟩
    · have := ih ha
      have := s.position_le_start
      have := s.start_le_position
      have := s.bound_next
      omega

/-- **Starts increase.** -/
theorem pairwise_sweep (s : Scanner) : s.sweep.1.Pairwise fun a b => a.2 < b.2 := by
  induction s using sweep_induction with
  | error s e h => rw [sweep_of_error h]; exact .nil
  | finish s h => rw [sweep_of_finish h]; exact List.pairwise_singleton _ _
  | ok s t h ht ih =>
    rw [sweep_of_ok h ht]
    refine .cons (fun a ha => ?_) ih
    -- the token takes characters, and the sweep goes on behind them
    exact Nat.lt_of_lt_of_le (start_lt_position h ht) (start_of_mem_sweep ha).1

/-- **The error that stops a sweep** stands behind all tokens before it, and
not past the end of the text. -/
theorem position_of_sweep_error {e : ReadError} (he : s.sweep.2 = some e) :
    (∀ a ∈ s.sweep.1, a.2 < e.position) ∧ s.position ≤ e.position ∧ e.position ≤ s.bound := by
  induction s using sweep_induction with
  | error s e' h =>
    rw [sweep_of_error h] at he ⊢
    obtain rfl := Option.some.inj he
    rw [position_of_error h]
    exact ⟨nofun, s.position_le_start, s.start_le_bound⟩
  | finish s h => rw [sweep_of_finish h] at he; cases he
  | ok s t h ht ih =>
    rw [sweep_of_ok h ht] at he ⊢
    obtain ⟨hlt, hpos, hle⟩ := ih he
    have hstart := start_lt_position h ht
    have := s.position_le_start
    have := s.bound_next
    refine ⟨?_, by omega, by omega⟩
    rintro a (_ | ⟨_, ha⟩)
    · change s.next.2.start < e.position
      omega
    · exact hlt a ha

/-- The end of the query is at the end of the text. -/
theorem start_of_finish_mem_sweep {p : ℕ} (hp : (.finish, p) ∈ s.sweep.1) : p = s.bound := by
  induction s using sweep_induction with
  | error s e h => rw [sweep_of_error h] at hp; cases hp
  | finish s h =>
    rw [sweep_of_finish h, List.mem_singleton] at hp
    cases hp
    exact start_of_finish h
  | ok s t h ht ih =>
    rw [sweep_of_ok h ht, List.mem_cons] at hp
    rcases hp with heq | hp
    · cases heq
      exact absurd rfl ht
    · rw [ih hp, bound_next]

end Scanner

end Query

end RowQuery
