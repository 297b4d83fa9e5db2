import Mathlib
import RowQuery.Proofs.Spelling
/-!
# Scanners that are asked again

A scanner can be asked for a token any number of times, behind errors and
behind the end of the text as well. It either moves on or stands: where a
lexeme takes characters the next one starts behind it, and where it takes
none the scanner gives the same answer for ever (`Scanner.next_of_stands`).
A text has only so many characters to take, so the scanner comes to stand
(`Scanner.exists_stands`). What is taken where there is no token, is told by
`Lexeme.Fails`. The headline is `Scanner.moves_or_stands`.
-/

namespace RowQuery

namespace Query

/-! ## Texts that start with no token -/

/-- The error of a character with which no token starts. -/
inductive ReadError.Cause.Stray : Char → ReadError.Cause → Prop
  /-- An exclamation mark. -/
  | exclamation : Stray '!' .exclamation
  /-- A digit. -/
  | bareDigit {c : Char} : Stray c (.bareDigit c)
  /-- Any other one. -/
  | strayCharacter {c : Char} : Stray c (.strayCharacter c)

namespace Lexeme

/-- **How a text starts with no token**, and how many characters are taken
all the same. -/
inductive Fails : List Char → ReadError.Cause → ℕ → Prop
  /-- A quote that is not closed takes the whole text. -/
  | unclosedText {rest : List Char} : Fails ('\'' :: rest) .unclosedText (rest.length + 1)
  /-- And so does one of a name. -/
  | unclosedName {rest : List Char} : Fails ('"' :: rest) .unclosedName (rest.length + 1)
  /-- A dollar sign takes the digits behind it, of which there are none -/
  | missingIndex {rest : List Char} :
      Fails ('$' :: rest) .missingIndex ((rest.takeWhile Char.isDigit).length + 1)
  /-- or too many. -/
  | indexTooLarge {rest : List Char} {digits : String} :
      Fails ('$' :: rest) (.indexTooLarge digits) ((rest.takeWhile Char.isDigit).length + 1)
  /-- A character with which no token starts is not taken. -/
  | stray {c : Char} {rest : List Char} {cause : ReadError.Cause} :
      cause.Stray c → Fails (c :: rest) cause 0

variable {text rest : List Char} {cause : ReadError.Cause}

/-- A dollar sign fails by its digits. -/
theorem fails_ofDollar (h : (ofDollar rest).outcome = .error cause) :
    Fails ('$' :: rest) cause (ofDollar rest).length := by
  simp only [ofDollar] at h ⊢
  split at h
  · obtain rfl := Except.error.inj h
    exact .missingIndex
  · split at h
    · cases h
    · obtain rfl := Except.error.inj h
      exact .indexTooLarge

/-- A quote fails when it is not closed. -/
theorem fails_ofQuoted {quote : Char} {token : String → Token} {unclosed : ReadError.Cause}
    (hfails : Fails (quote :: rest) unclosed (rest.length + 1))
    (h : (ofQuoted quote token unclosed rest).outcome = .error cause) :
    Fails (quote :: rest) cause (ofQuoted quote token unclosed rest).length := by
  rw [ofQuoted] at h ⊢
  split at h
  · cases h
  · obtain rfl := Except.error.inj h
    exact hfails

/-- **There are no other failures.** -/
theorem fails_first (h : (first text).outcome = .error cause) :
    Fails text cause (first text).length := by
  revert h
  fun_cases first text with
  | case2 rest => exact fails_ofDollar
  | case3 rest => exact fails_ofQuoted .unclosedName
  | case4 rest => exact fails_ofQuoted .unclosedText
  | case13 rest =>
    rintro ⟨⟩
    exact .stray .exclamation
  | case15 c rest =>
    rintro ⟨⟩
    exact .stray .bareDigit
  | case16 c rest =>
    rintro ⟨⟩
    exact .stray .strayCharacter
  -- the others are tokens
  | _ =>
    intro h
    cases h

/-- None of them is over a token. -/
theorem Fails.ne_unexpected {l : ℕ} (h : Fails text cause l) (wanted : Expected) (found : Token) :
    cause ≠ .unexpected wanted found := by
  rintro rfl
  cases h with
  | stray hc => cases hc

/-- **Where nothing is taken** the text is at its end, or starts with a
character with which no token does. -/
theorem of_length_eq_zero (h : (first text).length = 0) :
    (text = [] ∧ (first text).outcome = .ok .finish) ∨
      ∃ c rest cause, text = c :: rest ∧ (first text).outcome = .error cause ∧ cause.Stray c := by
  cases ho : (first text).outcome with
  | ok t =>
    left
    have ht : t = .finish := by
      by_contra ht
      have := (length_first ho ht).1
      omega
    exact ⟨eq_nil_of_finish (ht ▸ ho), ht ▸ rfl⟩
  | error cause =>
    right
    have hfails := fails_first ho
    rw [h] at hfails
    cases hfails with
    | stray hc => exact ⟨_, _, _, rfl, rfl, hc⟩

end Lexeme

namespace Scanner

variable {q : String} {s : Scanner} {i j k : ℕ}

/-! ## Scanners of a text -/

/-- **A scanner of a text**: it stands at a place in it and has left what is
behind. -/
structure Over (q : String) (s : Scanner) : Prop where
  /-- What is left. -/
  rest : s.rest = q.toList.drop s.position
  /-- The place is not past the end. -/
  le : s.position ≤ q.length

theorem over_ofText (q : String) : Over q (ofText q) :=
  ⟨rfl, Nat.zero_le _⟩

/-- Such a scanner ends where the text does. -/
theorem Over.bound_eq (h : Over q s) : s.bound = q.length := by
  have hle := h.le
  rw [bound, h.rest, List.length_drop, String.length_toList]
  omega

/-- The next lexeme is looked for in the text from its start on. -/
theorem Over.dropWhile_eq (h : Over q s) :
    s.rest.dropWhile Unicode.isWhiteSpace = q.toList.drop s.next.2.start := by
  set blank := s.rest.takeWhile Unicode.isWhiteSpace with hblank
  have hstart : s.next.2.start = s.position + blank.length := rfl
  have hsplit : blank ++ s.rest.dropWhile Unicode.isWhiteSpace = s.rest :=
    List.takeWhile_append_dropWhile
  have hdrop := congrArg (List.drop blank.length) hsplit
  rw [List.drop_left] at hdrop
  rw [hstart, ← List.drop_drop, ← h.rest, hdrop]

/-- **It stays one.** -/
theorem Over.next (h : Over q s) : Over q s.next.2 := by
  constructor
  · have hposition : s.next.2.position = s.next.2.start +
        (Lexeme.first (s.rest.dropWhile Unicode.isWhiteSpace)).length := rfl
    change (s.rest.dropWhile Unicode.isWhiteSpace).drop _ = _
    rw [hposition, h.dropWhile_eq, List.drop_drop]
  · have hbound := s.bound_next
    rw [h.bound_eq, bound] at hbound
    omega

/-! ## Standing still -/

/-- The scanner has taken nothing where it looked for a token. -/
def Stands (s : Scanner) : Prop :=
  s.next.2.position = s.next.2.start

/-- A scanner that takes nothing passes over white space only. -/
theorem length_of_stands (h : s.Stands) :
    (Lexeme.first (s.rest.dropWhile Unicode.isWhiteSpace)).length = 0 := by
  simp only [Stands, Scanner.next] at h
  omega

/-- A scanner that leaves as much as it had, has taken nothing. -/
theorem stands_of_length (h : s.rest.length ≤ s.next.2.rest.length) : s.Stands := by
  have hbound := s.bound_next
  have hstart := s.position_le_start
  have hposition := s.start_le_position
  simp only [bound] at hbound
  rw [Stands]
  omega

/-- What comes next depends on the text behind white space, and on where that
is. -/
theorem next_congr {u : Scanner}
    (hrest : u.rest.dropWhile Unicode.isWhiteSpace = s.rest.dropWhile Unicode.isWhiteSpace)
    (hstart : u.next.2.start = s.next.2.start) : u.next = s.next := by
  have hplace : u.position + (u.rest.takeWhile Unicode.isWhiteSpace).length =
      s.position + (s.rest.takeWhile Unicode.isWhiteSpace).length := hstart
  simp only [Scanner.next, hrest, hplace]

/-- **A scanner that stands gives the same answer again**, and is where it
was. -/
theorem next_of_stands (h : s.Stands) : s.next.2.next = s.next := by
  have hrest : s.next.2.rest = s.rest.dropWhile Unicode.isWhiteSpace := by
    change (s.rest.dropWhile Unicode.isWhiteSpace).drop _ = _
    rw [length_of_stands h, List.drop_zero]
  have hdrop : s.next.2.rest.dropWhile Unicode.isWhiteSpace = s.next.2.rest := by
    rw [hrest]
    exact List.dropWhile_idempotent _ _
  -- behind the white space there is no more of it
  have htake : s.next.2.rest.takeWhile Unicode.isWhiteSpace = [] := by
    have hsplit :=
      List.takeWhile_append_dropWhile (p := Unicode.isWhiteSpace) (l := s.next.2.rest)
    rw [hdrop] at hsplit
    exact List.append_left_eq_self.1 hsplit
  refine next_congr (hdrop.trans hrest) ?_
  change s.next.2.position + (s.next.2.rest.takeWhile Unicode.isWhiteSpace).length = _
  rw [htake]
  exact h

/-! ## Any number of answers -/

/-- The scanner behind a number of answers. -/
def later (s : Scanner) (k : ℕ) : Scanner :=
  (fun s => s.next.2)^[k] s

/-- What it answers next. -/
def answer (s : Scanner) (k : ℕ) : Except ReadError Token :=
  (s.later k).next.1

/-- And where it looks for the token. -/
def startOf (s : Scanner) (k : ℕ) : ℕ :=
  (s.later k).next.2.start

theorem later_succ (s : Scanner) (k : ℕ) : s.later (k + 1) = (s.later k).next.2 :=
  Function.iterate_succ_apply' _ k s

theorem Over.later (h : Over q s) (k : ℕ) : Over q (s.later k) := by
  induction k with
  | zero => exact h
  | succ k ih =>
    rw [later_succ]
    exact ih.next

theorem position_le_startOf (s : Scanner) (k : ℕ) : (s.later k).position ≤ s.startOf k :=
  (s.later k).position_le_start

theorem startOf_le_position (s : Scanner) (k : ℕ) : s.startOf k ≤ (s.later (k + 1)).position := by
  rw [later_succ]
  exact (s.later k).start_le_position

/-- **Starts do not decrease.** -/
theorem startOf_le_startOf (s : Scanner) (h : i ≤ j) : s.startOf i ≤ s.startOf j :=
  monotone_nat_of_le_succ
    (fun k => Nat.le_trans (s.startOf_le_position k) (s.position_le_startOf (k + 1))) h

/-- A scanner that looks at one place twice has taken nothing there. -/
theorem stands_of_startOf_eq (hij : i < j) (h : s.startOf i = s.startOf j) :
    (s.later i).Stands := by
  have hstart := s.startOf_le_position i
  have hposition := s.position_le_startOf (i + 1)
  have hmono : s.startOf (i + 1) ≤ s.startOf j := s.startOf_le_startOf hij
  have heq : (s.later (i + 1)).position = s.startOf i := by omega
  rwa [later_succ] at heq

/-- **What stands once stands for ever.** -/
theorem next_later_of_stands (h : (s.later i).Stands) (hk : i ≤ k) :
    (s.later k).next = (s.later i).next := by
  induction k, hk using Nat.le_induction with
  | base => rfl
  | succ k _ ih => rw [later_succ, ih, next_of_stands h]

/-- Where a scanner takes something at each place, it gets on by a character
at least. -/
theorem le_position_later (h : ∀ i < k, ¬ (s.later i).Stands) :
    s.position + k ≤ (s.later k).position := by
  induction k with
  | zero => exact Nat.le_refl _
  | succ k ih =>
    have hle := ih fun i hi => h i (Nat.lt_succ_of_lt hi)
    have hstart := s.position_le_startOf k
    have hposition := s.startOf_le_position k
    have hmoves : (s.later (k + 1)).position ≠ s.startOf k := by
      rw [later_succ]
      exact h k (Nat.lt_succ_self k)
    omega

/-- **A scanner comes to stand** within as many answers as its text has
characters. -/
theorem exists_stands (q : String) : ∃ i ≤ q.length, ((ofText q).later i).Stands := by
  by_contra hnone
  push Not at hnone
  have hle := le_position_later (s := ofText q) (k := q.length + 1) fun i hi =>
    hnone i (Nat.le_of_lt_succ hi)
  have hend := ((over_ofText q).later (q.length + 1)).le
  omega

/-! ## What is answered -/

/-- What the error is, depends on the text behind white space. -/
theorem first_of_error {e : ReadError} (h : s.next.1 = .error e) :
    (Lexeme.first (s.rest.dropWhile Unicode.isWhiteSpace)).outcome = .error e.cause := by
  simp only [Scanner.next] at h
  cases ho : (Lexeme.first (s.rest.dropWhile Unicode.isWhiteSpace)).outcome with
  | error c => rw [ho] at h; cases h; rfl
  | ok t => rw [ho] at h; cases h

/-- A scanner does not look at what fits. -/
theorem cause_ne_unexpected {e : ReadError} (h : s.next.1 = .error e) (wanted : Expected)
    (found : Token) : e.cause ≠ .unexpected wanted found :=
  (Lexeme.fails_first (first_of_error h)).ne_unexpected wanted found

/-- An error takes what its text fails by. -/
theorem Over.next_of_error {e : ReadError} (h : Over q s) (he : s.next.1 = .error e) :
    ∃ l, Lexeme.Fails (q.toList.drop e.position) e.cause l ∧
      s.next.2 = ⟨q.toList.drop (e.position + l), e.position + l, e.position⟩ := by
  have hpos := position_of_error he
  have hfails := Lexeme.fails_first (first_of_error he)
  have hrest := h.next.rest
  have hposition : s.next.2.position = e.position +
      (Lexeme.first (s.rest.dropWhile Unicode.isWhiteSpace)).length := by
    rw [hpos]
    rfl
  rw [h.dropWhile_eq, ← hpos] at hfails
  rw [h.dropWhile_eq, ← hpos] at hposition
  refine ⟨_, hfails, ?_⟩
  rw [← hposition, ← hrest, hpos]

/-- A scanner that stands is at the end, or at a character with which no
token starts. -/
theorem Over.answer_of_stands (h : Over q s) (hs : s.Stands) :
    (s.next.1 = .ok .finish ∧ s.next.2.start = q.length) ∨
      ∃ c cause, q.toList[s.next.2.start]? = some c ∧ cause.Stray c ∧
        s.next.1 = .error ⟨s.next.2.start, cause⟩ := by
  have hfst : s.next.1 = (Lexeme.first (s.rest.dropWhile Unicode.isWhiteSpace)).outcome.mapError
      (⟨s.next.2.start, ·⟩) := rfl
  rcases Lexeme.of_length_eq_zero (length_of_stands hs) with
    ⟨-, ho⟩ | ⟨c, rest, cause, htext, ho, hc⟩
  · left
    have hfinish : s.next.1 = .ok .finish := by
      rw [hfst, ho]
      rfl
    exact ⟨hfinish, (start_of_finish hfinish).trans h.bound_eq⟩
  · right
    refine ⟨c, cause, ?_, hc, by rw [hfst, ho]; rfl⟩
    rw [h.dropWhile_eq] at htext
    rw [← List.head?_drop, htext, List.head?_cons]

/-- A quote that is not closed leaves nothing but the end. -/
theorem Over.next_of_unclosed {e : ReadError} (h : Over q s) (he : s.next.1 = .error e)
    (hc : e.cause = .unclosedText ∨ e.cause = .unclosedName) :
    s.next.2.next.1 = .ok .finish ∧ s.next.2.next.2.start = q.length := by
  obtain ⟨l, hfails, hnext⟩ := h.next_of_error he
  have hall : (q.toList.drop e.position).length = l := by
    generalize q.toList.drop e.position = text at hfails
    generalize e.cause = cause at hfails hc
    cases hfails with
    | stray hstray => rcases hc with rfl | rfl <;> cases hstray
    | unclosedText => rfl
    | unclosedName => rfl
    | _ => simp at hc
  have hnil : s.next.2.rest = [] := by
    rw [hnext]
    change q.toList.drop (e.position + l) = []
    rw [← List.drop_drop, ← hall, List.drop_length]
  have hfinish : s.next.2.next.1 = .ok .finish := by
    simp only [Scanner.next.eq_1 s.next.2, hnil]
    rfl
  exact ⟨hfinish, (start_of_finish hfinish).trans h.next.bound_eq⟩

/-- A dollar sign that starts no token is passed with its digits. -/
theorem Over.next_of_dollar {e : ReadError} (h : Over q s) (he : s.next.1 = .error e)
    (hc : e.cause = .missingIndex ∨ ∃ digits, e.cause = .indexTooLarge digits) :
    ∃ digits, digits = (q.toList.drop (e.position + 1)).takeWhile Char.isDigit ∧
      s.next.2 = ⟨q.toList.drop (e.position + 1 + digits.length),
        e.position + 1 + digits.length, e.position⟩ := by
  obtain ⟨l, hfails, hnext⟩ := h.next_of_error he
  have hlen : l = ((q.toList.drop (e.position + 1)).takeWhile Char.isDigit).length + 1 := by
    rw [← List.drop_drop]
    generalize q.toList.drop e.position = text at hfails
    generalize e.cause = cause at hfails hc
    cases hfails with
    | stray hstray => cases hstray <;> simp at hc
    | missingIndex => rfl
    | indexTooLarge => rfl
    | _ => simp at hc
  refine ⟨_, rfl, ?_⟩
  rw [hnext, hlen, Nat.add_assoc, Nat.add_comm 1]

/-! ## The tokens of a text as answers -/

theorem tokens_of_error {e : ReadError} (h : s.next.1 = .error e) : s.tokens = .error e := by
  rw [tokens_eq_sweep, sweep_of_error h]

theorem tokens_of_finish (h : s.next.1 = .ok .finish) :
    s.tokens = .ok [(.finish, s.next.2.start)] := by
  rw [tokens_eq_sweep, sweep_of_finish h]

theorem tokens_of_ok {t : Token} (h : s.next.1 = .ok t) (ht : t ≠ .finish) :
    s.tokens = s.next.2.tokens.map ((t, s.next.2.start) :: ·) := by
  rw [tokens_eq_sweep, tokens_eq_sweep, sweep_of_ok h ht]
  cases s.next.2.sweep.2 <;> rfl

/-- **The tokens are done at an answer**: those before it are tokens, and it
is an error, which there is then in the place of tokens, or the end of the
query. The tokens are then the answers up to it, each with its start. -/
def DoneAt (s : Scanner) (m : ℕ) : Prop :=
  (∀ k < m, ∃ t, t ≠ Token.finish ∧ s.answer k = .ok t) ∧
    ((∃ e, s.answer m = .error e ∧ s.tokens = .error e) ∨
      s.answer m = .ok .finish ∧ ∃ ts, s.tokens = .ok ts ∧
        ts.map (fun a => (Except.ok a.1, a.2)) =
          (List.range (m + 1)).map fun k => (s.answer k, s.startOf k))

/-- **They are done at some answer.** The induction is along the sweep. -/
theorem exists_doneAt (s : Scanner) : ∃ m, s.DoneAt m := by
  induction s using sweep_induction with
  | error s e h => exact ⟨0, nofun, .inl ⟨e, h, tokens_of_error h⟩⟩
  | finish s h =>
    refine ⟨0, nofun, .inr ⟨h, _, tokens_of_finish h, ?_⟩⟩
    change [(Except.ok Token.finish, s.next.2.start)] = [(s.next.1, s.next.2.start)]
    rw [h]
  | ok s t h ht ih =>
    obtain ⟨m, htokens, hend⟩ := ih
    refine ⟨m + 1, fun k hk => ?_, ?_⟩
    · cases k with
      | zero => exact ⟨t, ht, h⟩
      | succ k => exact htokens k (Nat.lt_of_succ_lt_succ hk)
    · rw [tokens_of_ok h ht]
      rcases hend with ⟨e, he, herror⟩ | ⟨hfinish, ts, hts, hanswers⟩
      · exact .inl ⟨e, he, by rw [herror]; rfl⟩
      · refine .inr ⟨hfinish, (t, s.next.2.start) :: ts, by rw [hts]; rfl, ?_⟩
        rw [List.map_cons, hanswers, List.range_succ_eq_map (n := m + 1), List.map_cons,
          List.map_map]
        change _ = (s.next.1, s.next.2.start) :: _
        rw [h]
        rfl

/-- And before it there are not more than the text has characters. -/
theorem le_of_doneAt {m : ℕ} (h : (ofText q).DoneAt m) : m ≤ q.length := by
  have hmoves : ∀ k < m, ¬ ((ofText q).later k).Stands := by
    intro k hk hstands
    obtain ⟨t, ht, hok⟩ := h.1 k hk
    exact absurd hstands (Nat.ne_of_gt (start_lt_position hok ht))
  have hle := le_position_later hmoves
  have hend := ((over_ofText q).later m).le
  omega

/-- **A scanner moves on or stands**, asked any number of times. No start is
past the end of the text, none is before another one, and an error is at the
start. If two of them are the same, the scanner has come to the end or to a
character with which no token starts, and answers so for ever. A quote that
is not closed is followed by the end of the text, and a dollar sign without
a number by what is behind its digits. The answers do not change any more
behind as many as the text has characters, and no more than one beyond that
are asked for the tokens of a text. -/
theorem moves_or_stands (q : String) :
    (∀ k, (ofText q).startOf k ≤ q.length) ∧
    (∀ i j, i ≤ j → (ofText q).startOf i ≤ (ofText q).startOf j) ∧
    (∀ k e, (ofText q).answer k = .error e → e.position = (ofText q).startOf k) ∧
    (∀ i j, i < j → (ofText q).startOf i = (ofText q).startOf j →
      (((ofText q).answer i = .ok .finish ∧ (ofText q).startOf i = q.length) ∨
        ∃ c cause, q.toList[(ofText q).startOf i]? = some c ∧ cause.Stray c ∧
          (ofText q).answer i = .error ⟨(ofText q).startOf i, cause⟩) ∧
      ∀ k, i ≤ k → (ofText q).answer k = (ofText q).answer i ∧
        (ofText q).startOf k = (ofText q).startOf i) ∧
    (∀ k e, (ofText q).answer k = .error e →
      (e.cause = .unclosedText ∨ e.cause = .unclosedName →
        (ofText q).answer (k + 1) = .ok .finish ∧ (ofText q).startOf (k + 1) = q.length) ∧
      (e.cause = .missingIndex ∨ (∃ digits, e.cause = .indexTooLarge digits) →
        ∃ digits, digits = (q.toList.drop (e.position + 1)).takeWhile Char.isDigit ∧
          (ofText q).later (k + 1) = ⟨q.toList.drop (e.position + 1 + digits.length),
            e.position + 1 + digits.length, e.position⟩)) ∧
    (∀ k, q.length ≤ k → (ofText q).answer k = (ofText q).answer q.length) ∧
    ∃ m ≤ q.length, (ofText q).DoneAt m := by
  have hover := (over_ofText q).later
  refine ⟨fun k => ?_, fun i j => startOf_le_startOf _, fun k e => position_of_error,
    fun i j hij hstart => ?_, fun k e he => ⟨fun hc => ?_, fun hc => ?_⟩, fun k hk => ?_, ?_⟩
  · exact Nat.le_trans (start_le_bound _) (Nat.le_of_eq (hover k).bound_eq)
  · have hstands := stands_of_startOf_eq hij hstart
    refine ⟨(hover i).answer_of_stands hstands, fun k hk => ?_⟩
    rw [answer, startOf, next_later_of_stands hstands hk]
    exact ⟨rfl, rfl⟩
  · rw [answer, startOf, later_succ]
    exact (hover k).next_of_unclosed he hc
  · rw [later_succ]
    exact (hover k).next_of_dollar he hc
  · obtain ⟨i, hi, hstands⟩ := exists_stands q
    rw [answer, answer, next_later_of_stands hstands (Nat.le_trans hi hk),
      next_later_of_stands hstands hi]
  · obtain ⟨m, hm⟩ := (ofText q).exists_doneAt
    exact ⟨m, le_of_doneAt hm, hm⟩

end Scanner

end Query

end RowQuery
