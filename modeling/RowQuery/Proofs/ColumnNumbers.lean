import Mathlib
import RowQuery.Proofs.Parentheses
import RowQuery.Proofs.Progress
import RowQuery.Proofs.References
import RowQuery.Proofs.TotalOrder
/-!
# Column numbers

No token goes on with a dollar sign. So a column number is a token wherever it
stands outside of quotes, and the text in front of it is scanned and read as if
it were all (`Scanner.sweep_of_front`, `Outcome.of_append`). Below the bound the
number is read for its value, however many zeros it has, and it means the place
of the row or the cell it counts under every header; from the bound on it is an
error, at its dollar sign (`ColumnNumber.reads_cell`).
-/

namespace RowQuery

namespace Query

/-! ## In front of a dollar sign -/

/-- No token goes on with a dollar sign. -/
theorem Token.takes_dollar (t : Token) : t.takes '$' = false := by
  have hname : continuesName '$' = false := by decide
  rcases t with - | - | - | - | op | - | - | - | - | - | -
  case operator => cases op <;> simp [takes, hname]
  all_goals simp [takes, hname]

namespace Scanner

variable {s u : Scanner} {ps : List Piece} {trailing rest : List Char} {ts : List Token}

/-- What is swept depends on what comes next. -/
theorem sweep_congr (h : u.next = s.next) : u.sweep = s.sweep := by
  cases hs : s.next.1 with
  | error e => rw [sweep_of_error hs, sweep_of_error (h ▸ hs)]
  | ok t =>
    have hu : u.next.1 = .ok t := h ▸ hs
    by_cases ht : t = .finish
    · subst ht
      rw [sweep_of_finish hs, sweep_of_finish hu, h]
    · rw [sweep_of_ok hs ht, sweep_of_ok hu ht, h]

/-- **A row in front of a dollar sign is swept as its tokens**, and the sweep
goes on at the sign. The induction is on the row. -/
theorem sweep_of_front (hp : Piece.Parted ps) (ht : Blank trailing)
    (hs : s.rest = Piece.text ps ++ (trailing ++ '$' :: rest)) (hu : u.rest = '$' :: rest)
    (hposition : u.position = s.position + (Piece.text ps ++ trailing).length) :
    s.sweep = (Piece.starts s.position ps ++ u.sweep.1, u.sweep.2) := by
  induction ps generalizing s with
  | nil =>
    -- the scanner passes over the white space, and finds what the other one has
    have hsign : ∀ c, ('$' :: rest).head? = some c → Unicode.isWhiteSpace c = false := by
      rintro _ ⟨⟩
      decide
    have hnone : ('$' :: rest).takeWhile Unicode.isWhiteSpace = [] := rfl
    have hblank := takeWhile_append_of_head ht hsign
    rw [Piece.text, List.nil_append] at hs hposition
    have hnext : s.next = u.next := by
      refine next_congr ?_ ?_
      · rw [hs, hu, List.dropWhile_append_of_pos ht]
      · change s.position + (s.rest.takeWhile Unicode.isWhiteSpace).length =
          u.position + (u.rest.takeWhile Unicode.isWhiteSpace).length
        rw [hs, hu, hblank, hnone, hposition, List.length_nil, Nat.add_zero]
    rw [sweep_congr hnext]
    rfl
  | cons p ps ih =>
    rw [Piece.text, List.append_assoc, List.append_assoc] at hs
    have hnext := next_of_piece hs fun c hc => by
      rw [← List.append_assoc, List.head?_append] at hc
      rcases Option.or_eq_some_iff.1 hc with hc | ⟨-, hc⟩
      · exact hp.not_takes ht hc
      · cases hc
        exact p.token.takes_dollar
    have hok : s.next.1 = .ok p.token := by rw [hnext]
    have hsweep := ih (s := s.next.2) (List.isChain_cons.1 hp).2 (by rw [hnext]) (by
      rw [hposition, hnext]
      simp only [Piece.text, List.length_append]
      omega)
    rw [sweep_of_ok hok p.spells.ne_finish, hsweep, hnext]
    rfl

/-- **A text is a row of tokens** if it is swept as them, and not otherwise. -/
theorem isRow_iff_sweep :
    IsRow s.rest ts ↔
      ∃ words p, s.sweep = (words ++ [(.finish, p)], none) ∧ words.map Prod.fst = ts := by
  constructor
  · rintro ⟨ps, trailing, hp, ht, hs, rfl⟩
    exact ⟨_, _, sweep_of_pieces hp ht hs, Piece.map_fst_starts s.position ps⟩
  · rintro ⟨words, p, hsweep, rfl⟩
    obtain ⟨ps, trailing, hp, ht, hs, hwords⟩ := exists_pieces_of_sweep hsweep
    obtain ⟨rfl, -⟩ := List.append_inj' hwords rfl
    exact ⟨ps, trailing, hp, ht, hs, (Piece.map_fst_starts s.position ps).symm⟩

end Scanner

/-! ## Behind tokens that fit -/

namespace State

variable {s s' : State} {t u : Token} {ts : List Token} {x y : Reference}

/-- A token that fits is followed by those behind it. -/
theorem Next.after_cons (h : Next s t s') : s.after (t :: ts) = s'.after ts := by
  rw [after, step_eq_proceed_iff.2 h]

/-- **Where a reference fits, every other one does.** -/
theorem Next.exists_of_reference (h : Next s t s') (ht : x.Written t) (hu : y.Written u) :
    ∃ r, Next s u r := by
  cases h with
  | subject => exact ⟨_, .subject hu⟩
  | operand => exact ⟨_, .operand (.reference hu)⟩
  | _ => cases ht

end State

section Outcomes

variable {s s' : State} {t : Token} {p : ℕ} {stream front : List (Token × ℕ)}
  {failure : Option ReadError} {o : Except ReadError Tree}

/-- Behind a token that fits, the others decide what comes of all. -/
theorem Outcome.of_cons (hn : State.Next s t s') (h : Outcome s ((t, p) :: stream) failure o) :
    Outcome s' stream failure o := by
  cases h with
  | @complete before n r q hs hf ha hc =>
    cases before with
    | nil =>
      cases hs
      obtain rfl := Option.some.inj ha
      rw [State.step_eq_proceed_iff.2 hn] at hc
      cases hc
    | cons b before =>
      cases hs
      exact .complete before rfl hf (hn.after_cons.symm.trans ha) hc
  | @reject before rest v n r wanted hs ha hr =>
    cases before with
    | nil =>
      cases hs
      obtain rfl := Option.some.inj ha
      exact absurd hn (State.not_next_of_reject hr)
    | cons b before =>
      cases hs
      exact .reject before rfl (hn.after_cons.symm.trans ha) hr
  | failed hf ha => exact .failed hf (hn.after_cons.symm.trans ha)

/-- **Behind any number of them** it is so as well. -/
theorem Outcome.of_append (hs : s.after (front.map Prod.fst) = some s')
    (h : Outcome s (front ++ stream) failure o) : Outcome s' stream failure o := by
  induction front generalizing s with
  | nil =>
    obtain rfl := Option.some.inj hs
    exact h
  | cons a front ih =>
    obtain ⟨r, hn, hr⟩ := State.after_cons_iff.1 hs
    exact ih hr (h.of_cons hn)

end Outcomes

/-! ## References as tokens -/

/-- **The references of a phrase are those that its tokens write**, in their
order. -/
theorem Derives.references {ts : List Token} {p : Phrase} (h : Derives ts p) :
    p.comparisons.flatMap Comparison.references = ts.filterMap Token.reference? := by
  induction h with
  | @alternative _ c _ ih =>
    change (comparisons [c]).flatMap Comparison.references = _
    rw [comparisons_singleton]
    exact ih
  | @or ts us c q _ _ ihc ihq =>
    change (termComparisons c ++ comparisons q).flatMap Comparison.references = _
    rw [List.flatMap_append, List.filterMap_append]
    exact congrArg₂ _ ihc ihq
  | @single _ t _ ih =>
    change (termComparisons [t]).flatMap Comparison.references = _
    rw [termComparisons_singleton]
    exact ih
  | @and ts us t c _ _ iht ihc =>
    change (t.comparisons ++ termComparisons c).flatMap Comparison.references = _
    rw [List.flatMap_append, List.filterMap_append]
    exact congrArg₂ _ iht ihc
  | not _ ih => exact ih
  | @group ts q _ ih =>
    rw [List.filterMap_append]
    exact ih.trans (List.append_nil _).symm
  | @comparison x op y t u hx hy =>
    have ht := Token.reference?_eq_some_iff.2 hx
    have hu : u.reference?.toList = y.references := by
      cases hy with
      | text => rfl
      | reference hr =>  rw [Token.reference?_eq_some_iff.2 hr]; rfl
    have htail : [.operator op, u].filterMap Token.reference? = u.reference?.toList := by
      rw [List.filterMap_cons_none rfl, List.filterMap_cons]
      cases u.reference? <;> rfl
    rw [List.filterMap_cons_some ht, htail, hu]
    exact List.flatMap_singleton _ _

/-- A number writes one reference, -/
theorem Reference.exists_written (n : ℕ) : ∃ r : Reference, r.Written (.index n) := by
  rcases Nat.eq_zero_or_pos n with rfl | hn
  · exact ⟨.position, .position⟩
  · exact ⟨.index n, .index hn⟩

/-- which reads the place of a row for zero, -/
theorem Reference.Written.reads_place {h : Header} {row : Row} {ordinal : ℕ} {v : Cell}
    {r : Reference} (hr : r.Written (.index 0)) :
    Operand.Reads h row ordinal (.reference r) v ↔ v = some (toString (ordinal + 1)) := by
  have hplace : Operand.Reads h row ordinal (.reference r) (some (toString (ordinal + 1))) := by
    cases hr with
    | position => exact .reference rfl .position
    | index hn => cases hn
  exact ⟨fun hv => hv.unique hplace, fun hv => hv ▸ hplace⟩

/-- and for any other number the cell that it counts, whatever the columns are
called. -/
theorem Reference.Written.reads_cell {h : Header} {row : Row} {ordinal i : ℕ} {v : Cell}
    {r : Reference} (hr : r.Written (.index (i + 1))) :
    Operand.Reads h row ordinal (.reference r) v ↔ v = row[i]?.join := by
  have hcell : Operand.Reads h row ordinal (.reference r) row[i]?.join := by
    cases hr with
    | index =>
      have hmeans : h.resolve (.index (i + 1)) = .ok (.cell i) := rfl
      refine .reference hmeans (Source.reads_iff.2 ?_)
      rw [Source.read, Row.cell]
      cases row[i]? <;> rfl
  exact ⟨fun hv => hv.unique hcell, fun hv => hv ▸ hcell⟩

/-! ## Column numbers -/

/-- **A column number in a text**: behind a row of tokens a dollar sign, and
all the digits that follow it. -/
structure ColumnNumber where
  /-- The text in front of the dollar sign. -/
  before : List Char
  /-- The tokens of this text. -/
  tokens : List Token
  /-- It is a row of them. -/
  isRow : IsRow before tokens
  /-- The digits. -/
  digits : List Char
  /-- There are some, -/
  ne_nil : digits ≠ []
  /-- and no other characters between them. -/
  isDigit : ∀ d ∈ digits, d.isDigit = true
  /-- The text behind the digits. -/
  after : List Char
  /-- It does not go on with them. -/
  ended : ∀ c, after.head? = some c → c.isDigit = false

namespace ColumnNumber

variable {n : ColumnNumber}

/-- The whole text. -/
def text (n : ColumnNumber) : String :=
  String.ofList (n.before ++ '$' :: (n.digits ++ n.after))

/-- The number that the digits spell. -/
def value (n : ColumnNumber) : ℕ :=
  Nat.ofDigitChars 10 n.digits 0

/-- It is the number that the scanner finds in them. -/
theorem numeral_digits (n : ColumnNumber) : Text.numeral n.digits = n.value :=
  Nat.ofDigitChars_eq_foldl.symm

/-- Where the dollar sign stands. -/
def place (n : ColumnNumber) : ℕ :=
  n.before.length

/-- **A column may stand there**: with some reference at the place the tokens
go on to a query. -/
def Fits (n : ColumnNumber) : Prop :=
  ∃ (r : Reference) (t : Token) (us : List Token) (T : Tree),
    r.Written t ∧ Derives (n.tokens ++ t :: us) (.query T)

/-- The scanner at the dollar sign. -/
def scanner (n : ColumnNumber) : Scanner :=
  ⟨'$' :: (n.digits ++ n.after), n.place, n.place⟩

/-- The scanner behind the digits. -/
def behind (n : ColumnNumber) : Scanner :=
  ⟨n.after, n.place + (n.digits.length + 1), n.place⟩

/-- The tokens in front are swept before what the scanner sweeps at the
sign. -/
theorem exists_sweep (n : ColumnNumber) : ∃ words : List (Token × ℕ),
    words.map Prod.fst = n.tokens ∧
      (Scanner.ofText n.text).sweep = (words ++ n.scanner.sweep.1, n.scanner.sweep.2) := by
  obtain ⟨ps, trailing, hp, ht, hbefore, hts⟩ := n.isRow
  refine ⟨Piece.starts 0 ps, (Piece.map_fst_starts 0 ps).trans hts,
    Scanner.sweep_of_front hp ht ?_ rfl ?_⟩
  · rw [Scanner.ofText, text, String.toList_ofList, hbefore, List.append_assoc]
  · rw [Scanner.ofText, scanner, place, hbefore, Nat.zero_add]

/-- **What the scanner finds at the sign**: the value if it is below the bound,
and if not an error. -/
theorem next_scanner (n : ColumnNumber) :
    n.scanner.next =
      (if n.value < 2 ^ 64 then .ok (.index n.value)
        else .error ⟨n.place, .indexTooLarge (String.ofList n.digits)⟩, n.behind) := by
  have hdigits : (n.digits ++ n.after).takeWhile Char.isDigit = n.digits :=
    takeWhile_append_of_head n.isDigit n.ended
  have hvalue : Text.numeral n.digits = n.value := n.numeral_digits
  have hne : n.digits.isEmpty = false := List.isEmpty_eq_false_iff.2 n.ne_nil
  have hblank : n.scanner.rest.takeWhile Unicode.isWhiteSpace = [] := rfl
  have hrest : n.scanner.rest.dropWhile Unicode.isWhiteSpace = '$' :: (n.digits ++ n.after) := rfl
  have hfirst : Lexeme.first ('$' :: (n.digits ++ n.after)) =
      ⟨if n.value < 2 ^ 64 then .ok (.index n.value)
        else .error (.indexTooLarge (String.ofList n.digits)), n.digits.length + 1⟩ := by
    simp only [Lexeme.first, Lexeme.ofDollar, hdigits, hvalue, hne]
    rfl
  have hdrop : ('$' :: (n.digits ++ n.after)).drop (n.digits.length + 1) = n.after := by
    rw [List.drop_succ_cons, List.drop_left]
  simp only [Scanner.next, hblank, hrest, hfirst, hdrop]
  split <;> rfl

/-- Below the bound the number is a token, -/
theorem sweep_scanner_of_lt (hlt : n.value < 2 ^ 64) :
    n.scanner.sweep = ((.index n.value, n.place) :: n.behind.sweep.1, n.behind.sweep.2) := by
  have hnext := n.next_scanner
  rw [if_pos hlt] at hnext
  have hok : n.scanner.next.1 = .ok (.index n.value) := by rw [hnext]
  rw [Scanner.sweep_of_ok hok (by simp), hnext]
  rfl

/-- and from there on an error. -/
theorem sweep_scanner_of_le (hle : 2 ^ 64 ≤ n.value) :
    n.scanner.sweep = ([], some ⟨n.place, .indexTooLarge (String.ofList n.digits)⟩) := by
  have hnext := n.next_scanner
  rw [if_neg (Nat.not_lt.2 hle)] at hnext
  exact Scanner.sweep_of_error (by rw [hnext])

/-- **The text is a row exactly if the text behind the number is one**, and the
number is a token of it for its value. -/
theorem isRow_text_iff (hlt : n.value < 2 ^ 64) {ts : List Token} :
    IsRow n.text.toList ts ↔
      ∃ us, IsRow n.after us ∧ ts = n.tokens ++ .index n.value :: us := by
  obtain ⟨words, hwords, hscanned⟩ := n.exists_sweep
  have hsweep : (Scanner.ofText n.text).sweep =
      (words ++ (.index n.value, n.place) :: n.behind.sweep.1, n.behind.sweep.2) := by
    rw [hscanned, sweep_scanner_of_lt hlt]
  constructor
  · intro hrow
    obtain ⟨all, p, hall, rfl⟩ := (Scanner.isRow_iff_sweep (s := .ofText n.text)).1 hrow
    rw [hsweep] at hall
    obtain ⟨hfront, hnone⟩ := Prod.mk.inj hall
    have hswept : n.behind.sweep = (n.behind.sweep.1, none) := Prod.ext rfl hnone
    obtain ⟨ps, trailing, hp, ht, hrest, htokens⟩ := Scanner.exists_pieces_of_sweep hswept
    refine ⟨ps.map Piece.token, ⟨ps, trailing, hp, ht, hrest, rfl⟩, ?_⟩
    rw [htokens, ← List.cons_append, ← List.append_assoc] at hfront
    obtain ⟨hall, -⟩ := List.append_inj' hfront rfl
    rw [← hall, List.map_append, List.map_cons, hwords, Piece.map_fst_starts]
  · rintro ⟨us, hus, rfl⟩
    obtain ⟨tokens, p, htokens, rfl⟩ := (Scanner.isRow_iff_sweep (s := n.behind)).1 hus
    refine (Scanner.isRow_iff_sweep (s := .ofText n.text)).2
      ⟨words ++ (.index n.value, n.place) :: tokens, p, ?_, ?_⟩
    · rw [hsweep, htokens]
      simp
    · simp [hwords]

/-- **What comes of the text** is decided behind the tokens in front. -/
theorem exists_outcome (n : ColumnNumber) {s : State} (hs : State.start.after n.tokens = some s) :
    Outcome s n.scanner.sweep.1 n.scanner.sweep.2 (read n.text) := by
  obtain ⟨words, hwords, hsweep⟩ := n.exists_sweep
  have ho := read_outcome n.text
  rw [hsweep] at ho
  exact ho.of_append (hwords ▸ hs)

/-- Where a column may stand, the number is one. -/
theorem Fits.exists_next (h : n.Fits) :
    ∃ s s', State.start.after n.tokens = some s ∧ State.Next s (.index n.value) s' := by
  obtain ⟨r, t, us, T, ht, hT⟩ := h
  obtain ⟨l, hl, -⟩ := derives_iff.1 hT
  obtain ⟨s, hs, hl⟩ := State.after_append_iff.1 hl
  obtain ⟨_, hn, -⟩ := State.after_cons_iff.1 hl
  obtain ⟨_, hr⟩ := Reference.exists_written n.value
  obtain ⟨s', hs'⟩ := hn.exists_of_reference ht hr
  exact ⟨s, s', hs, hs'⟩

/-- So there are queries that begin with the text up to it. -/
theorem Fits.exists_derives (h : n.Fits) :
    ∃ us T, Derives (n.tokens ++ .index n.value :: us) (.query T) := by
  obtain ⟨s, s', hs, hn⟩ := h.exists_next
  have hafter : State.start.after (n.tokens ++ [.index n.value]) = some s' :=
    State.after_append_iff.2 ⟨s, hs, State.after_cons_iff.2 ⟨s', hn, rfl⟩⟩
  obtain ⟨us, T, hT⟩ := exists_derives_of_after hafter
  rw [List.append_assoc] at hT
  exact ⟨us, T, hT⟩

/-- **An error is behind the number**, if there is one. -/
theorem Fits.place_lt (h : n.Fits) (hlt : n.value < 2 ^ 64) {e : ReadError}
    (he : read n.text = .error e) : n.place < e.position := by
  obtain ⟨s, s', hs, hn⟩ := h.exists_next
  have ho := n.exists_outcome hs
  rw [sweep_scanner_of_lt hlt, he] at ho
  have hposition : n.place < n.behind.position := Nat.lt_add_of_pos_right (Nat.succ_pos _)
  refine Nat.lt_of_lt_of_le hposition ?_
  cases ho.of_cons hn with
  | @reject before rest t p _ _ hstream =>
    have hmem : (t, p) ∈ n.behind.sweep.1 := by
      rw [hstream]
      exact List.mem_append_right _ List.mem_cons_self
    exact (Scanner.start_of_mem_sweep hmem).1
  | failed hfailure => exact (Scanner.position_of_sweep_error hfailure).2.1

/-- **A number that is too large is an error at its sign**, unless there is one
in front of it. -/
theorem error_of_le (hle : 2 ^ 64 ≤ n.value) :
    ∃ e, read n.text = .error e ∧
      (e = ⟨n.place, .indexTooLarge (String.ofList n.digits)⟩ ∨ e.position < n.place) := by
  obtain ⟨words, hwords, hsweep⟩ := n.exists_sweep
  rw [sweep_scanner_of_le hle, List.append_nil] at hsweep
  have ho := read_outcome n.text
  rw [hsweep] at ho
  generalize read n.text = o at ho
  cases ho with
  | complete _ _ hnone => cases hnone
  | @reject before rest t p _ wanted hstream =>
    refine ⟨_, rfl, .inr ?_⟩
    have hbefore := (Scanner.position_of_sweep_error (s := .ofText n.text) (by rw [hsweep])).1
    refine hbefore (t, p) ?_
    rw [hsweep, hstream]
    exact List.mem_append_right _ List.mem_cons_self
  | failed hfailure => exact ⟨_, rfl, .inl (Option.some.inj hfailure).symm⟩

/-- Where a column may stand there is none. -/
theorem Fits.error_eq (h : n.Fits) (hle : 2 ^ 64 ≤ n.value) :
    read n.text = .error ⟨n.place, .indexTooLarge (String.ofList n.digits)⟩ := by
  obtain ⟨s, -, hs, -⟩ := h.exists_next
  have ho := n.exists_outcome hs
  rw [sweep_scanner_of_le hle] at ho
  generalize read n.text = o at ho
  cases ho with
  | complete _ _ hnone => cases hnone
  | reject before hstream => simp at hstream
  | failed hfailure =>
    obtain rfl := Option.some.inj hfailure
    rfl

/-- **A column number means the cell it says.** Take a column number in a text,
with any zeros before it. Below 2 to the power of 64 it is a token of that
value: the text is read as a query exactly if the text behind it has tokens
that make one with those in front and the number, and where a column may stand
there are such tokens, and no error up to the number. The number is then a
reference of the query, the one behind those in front of it. Under every
header it reads the place of the row if it is zero, and else the cell that it
counts, which is absent behind the last one. From that bound on no query is
read, and the error is at the dollar sign if it is not in front of it, where
there is none if a column may stand here. -/
theorem means_its_cell (n : ColumnNumber) :
    (n.value < 2 ^ 64 →
      (∀ T, read n.text = .ok T ↔
        ∃ us, IsRow n.after us ∧ Derives (n.tokens ++ .index n.value :: us) (.query T)) ∧
      (n.Fits → (∃ us T, Derives (n.tokens ++ .index n.value :: us) (.query T)) ∧
        ∀ e, read n.text = .error e → n.place < e.position) ∧
      ∀ us T, Derives (n.tokens ++ .index n.value :: us) (.query T) →
        ∃ r, T.references = n.tokens.filterMap Token.reference? ++
            r :: us.filterMap Token.reference? ∧
          ∀ h row ordinal v,
            (n.value = 0 →
              (Operand.Reads h row ordinal (.reference r) v ↔ v = some (toString (ordinal + 1)))) ∧
            ∀ i, n.value = i + 1 →
              (Operand.Reads h row ordinal (.reference r) v ↔ v = row[i]?.join)) ∧
    (2 ^ 64 ≤ n.value →
      (∃ e, read n.text = .error e ∧
        (e = ⟨n.place, .indexTooLarge (String.ofList n.digits)⟩ ∨ e.position < n.place)) ∧
      (n.Fits → read n.text = .error ⟨n.place, .indexTooLarge (String.ofList n.digits)⟩)) := by
  refine ⟨fun hlt => ⟨fun T => ?_, fun hfits => ⟨hfits.exists_derives, fun e => hfits.place_lt hlt⟩,
    fun us T hT => ?_⟩, fun hle => ⟨error_of_le hle, fun hfits => hfits.error_eq hle⟩⟩
  · rw [read_iff_isRow]
    constructor
    · rintro ⟨ts, hrow, hT⟩
      obtain ⟨us, hus, rfl⟩ := (isRow_text_iff hlt).1 hrow
      exact ⟨us, hus, hT⟩
    · rintro ⟨us, hus, hT⟩
      exact ⟨_, (isRow_text_iff hlt).2 ⟨us, hus, rfl⟩, hT⟩
  · obtain ⟨r, hr⟩ := Reference.exists_written n.value
    have hreferences : T.references = _ := hT.references
    rw [List.filterMap_append,
      List.filterMap_cons_some (Token.reference?_eq_some_iff.2 hr)] at hreferences
    refine ⟨r, hreferences, fun h row ordinal v => ⟨fun hzero => ?_, fun i hi => ?_⟩⟩
    · rw [hzero] at hr
      exact hr.reads_place
    · rw [hi] at hr
      exact hr.reads_cell

/-- The seventh column behind an operator, and a number whose zeros count for
nothing but that is too large all the same. -/
theorem means_its_cell_seventh :
    (∃ n : ColumnNumber, n.text = "NOT $1 < $007 AND b = ''" ∧ n.value = 7 ∧ n.Fits ∧
      ∃ r, Tree.references [[.negation (.comparison ⟨.index 1, .less, .reference (.index 7)⟩),
          .comparison ⟨.name "b", .equal, .text ""⟩]] = [.index 1, r, .name "b"] ∧
        ∀ h row ordinal v,
          Operand.Reads h row ordinal (.reference r) v ↔ v = row[6]?.join) ∧
    ∃ n : ColumnNumber, n.text = "$1 = $0018446744073709551616" ∧ n.Fits ∧
      read n.text = .error ⟨5, .indexTooLarge "0018446744073709551616"⟩ := by
  have hseventh : IsRow "NOT $1 < ".toList [.not, .index 1, .operator .less] :=
    (Scanner.isRow_iff_sweep (s := .ofText "NOT $1 < ")).2
      ⟨[(.not, 0), (.index 1, 4), (.operator .less, 7)], 9, by cbv, rfl⟩
  have hlarge : IsRow "$1 = ".toList [.index 1, .operator .equal] :=
    (Scanner.isRow_iff_sweep (s := .ofText "$1 = ")).2
      ⟨[(.index 1, 0), (.operator .equal, 3)], 5, by cbv, rfl⟩
  have hne (k : ℕ) : List.replicate 2 '0' ++ (Text.decimal k).toList ≠ [] := by simp
  let n : ColumnNumber :=
    ⟨_, _, hseventh, List.replicate 2 '0' ++ (Text.decimal 7).toList, hne 7,
      fun _ => Text.isDigit_of_mem_decimal, " AND b = ''".toList, by rintro _ ⟨⟩; decide⟩
  let m : ColumnNumber :=
    ⟨_, _, hlarge, List.replicate 2 '0' ++ (Text.decimal (2 ^ 64)).toList, hne (2 ^ 64),
      fun _ => Text.isDigit_of_mem_decimal, [], by simp⟩
  have hn : n.value = 7 := n.numeral_digits.symm.trans (Text.numeral_decimal 2 7)
  have hm : m.value = 2 ^ 64 := m.numeral_digits.symm.trans (Text.numeral_decimal 2 (2 ^ 64))
  have hrest : Derives [.not, .index 1, .operator .less, .index 7, .and, .name "b",
      .operator .equal, .text ""] (.query [[.negation (.comparison ⟨.index 1, .less,
        .reference (.index 7)⟩), .comparison ⟨.name "b", .equal, .text ""⟩]]) :=
    .alternative (.and (.not (.comparison (.index (by decide)) (.reference (.index (by decide)))))
      (.single (.comparison .name .text)))
  have hfits : n.Fits := ⟨.index 7, .index 7, _, _, .index (by decide), hrest⟩
  have hfits' : m.Fits :=
    ⟨.position, .index 0, [], _, .position,
      .alternative (.single (.comparison (.index (by decide)) (.reference .position)))⟩
  obtain ⟨-, -, hreads⟩ := (means_its_cell n).1 (by rw [hn]; decide)
  rw [hn] at hreads
  obtain ⟨r, hr, hcell⟩ := hreads _ _ hrest
  refine ⟨⟨n, by cbv, hn, hfits, r, hr, fun h row ordinal v => ?_⟩, m, by cbv, hfits', ?_⟩
  · exact (hcell h row ordinal v).2 6 rfl
  · exact ((means_its_cell m).2 hm.ge).2 hfits'

end ColumnNumber

end Query

end RowQuery
