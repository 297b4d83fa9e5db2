import Mathlib
import RowQuery.Proofs.Reading
import RowQuery.Proofs.Spelling
/-!
# Texts put together from spellings

A text that has tokens is a row of pieces, each a spelling of one token with
white space before it, and white space at its end. White space may be
missing except where the two tokens would run together. Reading such a text
gives back its tokens, each with the place of its spelling
(`tokens_of_pieces`), and there are no other texts with tokens
(`exists_pieces_of_sweep`). So the queries are the rows whose tokens derive
one (`read_iff_isRow`), and rows can be joined (`IsRow.append`).
-/

namespace RowQuery

namespace Query

/-- Whether a text is white space, or empty. -/
def Blank (text : List Char) : Prop :=
  ∀ c ∈ text, Unicode.isWhiteSpace c = true

theorem blank_nil : Blank [] :=
  nofun

theorem blank_space : Blank [' '] := by
  simp only [Blank, List.forall_mem_singleton]
  decide

/-- A token as it stands in a text. -/
structure Piece where
  /-- The white space before it. -/
  gap : List Char
  /-- The token. -/
  token : Token
  /-- How it is written. -/
  spelling : List Char
  /-- The gap is white space. -/
  blank : Blank gap
  /-- And the spelling one of the token. -/
  spells : token.Spells spelling

namespace Piece

/-- The text of pieces in a row. -/
def text : List Piece → List Char
  | [] => []
  | p :: ps => p.gap ++ (p.spelling ++ text ps)

/-- The tokens of pieces in a row, each with the place of its spelling. The
row starts at the offset. -/
def starts (offset : ℕ) : List Piece → List (Token × ℕ)
  | [] => []
  | p :: ps =>
    (p.token, offset + p.gap.length) ::
      starts (offset + p.gap.length + p.spelling.length) ps

/-- **Pieces that are kept apart**: there is white space between two of them
if their tokens would run together without it. -/
def Parted (ps : List Piece) : Prop :=
  ps.IsChain fun p q => p.token.RunsInto q.token → q.gap ≠ []

variable {p : Piece} {ps qs : List Piece} {trailing rest : List Char}

/-- Rows are joined by joining their texts. -/
theorem text_append (ps qs : List Piece) : text (ps ++ qs) = text ps ++ text qs := by
  induction ps with
  | nil => rfl
  | cons p ps ih => simp [text, ih]

/-- The tokens are those of the pieces. -/
theorem map_fst_starts (offset : ℕ) (ps : List Piece) :
    (starts offset ps).map Prod.fst = ps.map token := by
  induction ps generalizing offset with
  | nil => rfl
  | cons p ps ih => simp [starts, ih]

/-- A spelling starts with a character, which is not white space. -/
theorem exists_spelling_eq (p : Piece) : ∃ c tail, p.spelling = c :: tail := by
  have hne : p.spelling ≠ [] := by
    have hs := p.spells
    intro h
    rw [h] at hs
    have hfirst : Lexeme.first ([] ++ []) = ⟨.ok p.token, 0⟩ :=
      Lexeme.first_of_spells hs nofun
    simp [Lexeme.first] at hfirst
    exact hs.ne_finish hfirst.symm
  exact List.exists_cons_of_ne_nil hne

/-- **Pieces that are kept apart do not go on with one another.** -/
theorem Parted.not_takes (h : Parted (p :: ps)) (ht : Blank trailing) {c : Char}
    (hc : (text ps ++ trailing).head? = some c) : p.token.takes c = false := by
  -- the character belongs to the end of the text, to a gap or to a spelling
  cases ps with
  | nil =>
    obtain ⟨tail, hc⟩ := List.head?_eq_some_iff.1 hc
    exact p.token.takes_of_isWhiteSpace (ht c (by rw [← List.nil_append trailing]; simp_all [text]))
  | cons q ps =>
    have hpq := (List.isChain_cons_cons.1 h).1
    cases hg : q.gap with
    | cons d gap =>
      simp only [text, hg, List.cons_append, List.head?_cons, Option.some.injEq] at hc
      exact hc ▸ p.token.takes_of_isWhiteSpace (q.blank d (by simp [hg]))
    | nil =>
      obtain ⟨d, tail, hd⟩ := q.exists_spelling_eq
      simp only [text, hg, hd, List.nil_append, List.cons_append, List.head?_cons,
        Option.some.injEq] at hc
      have hq := q.spells
      rw [hd] at hq
      rw [← Bool.not_eq_true, ← hc, hq.takes_iff]
      exact fun hrun => hpq hrun hg

end Piece

namespace Scanner

variable {s : Scanner} {trailing rest : List Char}

/-- A scanner passes over a gap and reads the spelling behind it. -/
theorem next_of_piece {p : Piece} (hs : s.rest = p.gap ++ (p.spelling ++ rest))
    (hrest : ∀ c, rest.head? = some c → p.token.takes c = false) :
    s.next = (.ok p.token,
      ⟨rest, s.position + p.gap.length + p.spelling.length, s.position + p.gap.length⟩) := by
  obtain ⟨c, tail, hc⟩ := p.exists_spelling_eq
  have hp := p.spells
  rw [hc] at hp
  have hhead : ∀ d, (p.spelling ++ rest).head? = some d → Unicode.isWhiteSpace d = false := by
    intro d hd
    rw [hc, List.cons_append, List.head?_cons, Option.some.injEq] at hd
    exact hd ▸ hp.beginsWith.notBlank
  have htake : s.rest.takeWhile Unicode.isWhiteSpace = p.gap := by
    rw [hs, takeWhile_append_of_head p.blank hhead]
  have hdrop : s.rest.dropWhile Unicode.isWhiteSpace = p.spelling ++ rest := by
    have hsplit := List.takeWhile_append_dropWhile (p := Unicode.isWhiteSpace) (l := s.rest)
    rw [htake, hs] at hsplit
    exact hs ▸ List.append_cancel_left hsplit
  simp only [next, htake, hdrop, Lexeme.first_of_spells p.spells hrest, List.drop_left]
  rfl

/-- At the end of the text a scanner finds white space only. -/
theorem next_of_blank (hs : Blank s.rest) :
    s.next.1 = .ok .finish ∧ s.next.2.start = s.position + s.rest.length := by
  have htake : s.rest.takeWhile Unicode.isWhiteSpace = s.rest := List.takeWhile_eq_self_iff.2 hs
  have hdrop : s.rest.dropWhile Unicode.isWhiteSpace = [] := List.dropWhile_eq_nil_iff.2 hs
  simp only [next, htake, hdrop, Lexeme.first]
  exact ⟨rfl, trivial⟩

/-- **A row of pieces is swept as its tokens.** The induction is on the
row. -/
theorem sweep_of_pieces {ps : List Piece} (hp : Piece.Parted ps) (ht : Blank trailing)
    (hs : s.rest = Piece.text ps ++ trailing) :
    s.sweep = (Piece.starts s.position ps ++ [(.finish, s.bound)], none) := by
  induction ps generalizing s with
  | nil =>
    obtain ⟨hfinish, hstart⟩ := next_of_blank (s := s) (by rw [hs]; exact ht)
    rw [sweep_of_finish hfinish, hstart]
    rfl
  | cons p ps ih =>
    rw [Piece.text, List.append_assoc, List.append_assoc] at hs
    have hnext := next_of_piece hs fun c hc => hp.not_takes ht hc
    have hok : s.next.1 = .ok p.token := by rw [hnext]
    have hbound := s.bound_next
    have hsweep := ih (s := s.next.2) (List.isChain_cons.1 hp).2 (by rw [hnext])
    rw [sweep_of_ok hok p.spells.ne_finish, hsweep, hbound, hnext]
    rfl

/-- **A text that is swept without an error is a row of pieces.** The
induction is along the sweep. -/
theorem exists_pieces_of_sweep {ts : List (Token × ℕ)} (h : s.sweep = (ts, none)) :
    ∃ ps trailing, Piece.Parted ps ∧ Blank trailing ∧ s.rest = Piece.text ps ++ trailing ∧
      ts = Piece.starts s.position ps ++ [(.finish, s.bound)] := by
  induction s using sweep_induction generalizing ts with
  | error s e he => rw [sweep_of_error he] at h; cases h
  | finish s hf =>
    rw [sweep_of_finish hf, start_of_finish hf] at h
    cases h
    refine ⟨[], s.rest, .nil, ?_, rfl, rfl⟩
    exact List.dropWhile_eq_nil_iff.1 (Lexeme.eq_nil_of_finish (first_of_next hf))
  | ok s t hok ht ih =>
    have hbound := s.bound_next
    rw [sweep_of_ok hok ht] at h
    obtain ⟨word, rest, htext, hlen, hspells, htakes⟩ :=
      Lexeme.taken_first (first_of_next hok) ht
    have hrest : s.next.2.rest = rest := by
      simp only [next, htext] at hlen ⊢
      rw [hlen, List.drop_left]
    obtain ⟨rfl, hnone⟩ := Prod.mk.inj h
    have hswept : s.next.2.sweep = (s.next.2.sweep.1, none) := Prod.ext rfl hnone
    obtain ⟨ps, trailing, hp, hblank, hps, hts⟩ := ih hswept
    -- the piece that was read: what was passed over, and what was taken
    let p : Piece := ⟨s.rest.takeWhile Unicode.isWhiteSpace, t, word,
      fun _ hc => List.mem_takeWhile_imp hc, hspells⟩
    refine ⟨p :: ps, trailing, List.isChain_cons.2 ⟨fun q hq hrun hgap => ?_, hp⟩, hblank, ?_, ?_⟩
    · -- had the two run together, the token would have taken more
      obtain ⟨ps, rfl⟩ := List.head?_eq_some_iff.1 hq
      obtain ⟨c, tail, hc⟩ := q.exists_spelling_eq
      have hq := q.spells
      rw [hc] at hq
      have hnot := htakes c (by rw [← hrest, hps, Piece.text, hgap, hc]; rfl)
      rw [(hq.takes_iff t).2 hrun] at hnot
      cases hnot
    · rw [Piece.text, List.append_assoc, List.append_assoc, ← hps, hrest, ← htext,
        List.takeWhile_append_dropWhile]
    · have hposition : s.next.2.position =
          s.position + (s.rest.takeWhile Unicode.isWhiteSpace).length + word.length := by
        rw [← hlen]
        rfl
      rw [hts, hposition, hbound]
      rfl

end Scanner

/-! ## Queries as rows of pieces -/

/-- **A text that is a row of pieces**, and the tokens of the row. -/
def IsRow (text : List Char) (ts : List Token) : Prop :=
  ∃ ps trailing, Piece.Parted ps ∧ Blank trailing ∧ text = Piece.text ps ++ trailing ∧
    ps.map Piece.token = ts

namespace IsRow

variable {text text' gap : List Char} {ts us : List Token} {t : Token}

/-- A spelling is a row by itself. -/
theorem of_spells (h : t.Spells text) : IsRow text [t] :=
  ⟨[⟨[], t, text, blank_nil, h⟩], [], List.isChain_singleton _, blank_nil,
    by simp [Piece.text], rfl⟩

/-- All tokens of a row are spelled in it. -/
theorem exists_spells (h : IsRow text ts) : ∀ u ∈ ts, ∃ word, u.Spells word := by
  obtain ⟨ps, trailing, -, -, -, rfl⟩ := h
  intro u hu
  obtain ⟨p, -, rfl⟩ := List.mem_map.1 hu
  exact ⟨p.spelling, p.spells⟩

/-- A row with tokens is not blank. -/
theorem not_blank (h : IsRow text ts) (hne : ts ≠ []) : ¬ Blank text := by
  obtain ⟨ps, trailing, -, -, rfl, rfl⟩ := h
  obtain _ | ⟨p, ps⟩ := ps
  · exact absurd rfl hne
  · obtain ⟨c, tail, hc⟩ := p.exists_spelling_eq
    have hp := p.spells
    rw [hc] at hp
    intro hblank
    have hwhite := hblank c (by simp [Piece.text, hc])
    rw [hp.beginsWith.notBlank] at hwhite
    cases hwhite

/-- **Rows are joined** behind any white space, and without it where the
tokens that meet do not run together. -/
theorem append (h : IsRow text ts) (h' : IsRow text' us) (hgap : Blank gap)
    (hrun : gap = [] → ∀ t ∈ ts.getLast?, ∀ u ∈ us.head?, ¬ t.RunsInto u) :
    IsRow (text ++ (gap ++ text')) (ts ++ us) := by
  obtain ⟨ps, trailing, hp, ht, rfl, rfl⟩ := h
  obtain ⟨qs, trailing', hq, ht', rfl, rfl⟩ := h'
  have hblank : Blank (trailing ++ gap) := List.forall_mem_append.2 ⟨ht, hgap⟩
  cases qs with
  | nil =>
    refine ⟨ps, trailing ++ gap ++ trailing', hp, List.forall_mem_append.2 ⟨hblank, ht'⟩, ?_, ?_⟩
    · simp [Piece.text]
    · simp
  | cons q qs =>
    -- the white space where the rows meet is now the gap of a piece
    let q' : Piece :=
      ⟨trailing ++ gap ++ q.gap, q.token, q.spelling,
        List.forall_mem_append.2 ⟨hblank, q.blank⟩, q.spells⟩
    refine ⟨ps ++ q' :: qs, trailing', List.isChain_append.2 ⟨hp, ?_, ?_⟩, ht', ?_, ?_⟩
    · obtain ⟨hhead, htail⟩ := List.isChain_cons.1 hq
      exact List.isChain_cons.2 ⟨hhead, htail⟩
    · rintro p hlast _ ⟨⟩ hpq hnil
      have hgap : gap = [] := by
        simp only [q', List.append_eq_nil_iff] at hnil
        exact hnil.1.2
      refine hrun hgap p.token ?_ q.token rfl hpq
      rw [List.getLast?_map]
      exact Option.mem_map_of_mem _ hlast
    · simp [Piece.text_append, Piece.text, q']
    · simp [q']

end IsRow

variable {q : String} {T : Tree}

/-- **The queries are the rows whose tokens derive one.** -/
theorem read_iff_isRow :
    read q = .ok T ↔ ∃ ts, IsRow q.toList ts ∧ Derives ts (.query T) := by
  constructor
  · intro h
    obtain ⟨words, n, htokens, hT⟩ := derives_of_read h
    obtain ⟨ps, trailing, hp, ht, hq, hwords⟩ :=
      Scanner.exists_pieces_of_sweep (Scanner.sweep_of_tokens htokens)
    obtain ⟨rfl, -⟩ := List.append_inj' hwords rfl
    rw [Piece.map_fst_starts] at hT
    exact ⟨_, ⟨ps, trailing, hp, ht, hq, rfl⟩, hT⟩
  · rintro ⟨_, ⟨ps, trailing, hp, ht, hq, rfl⟩, hT⟩
    have hsweep := Scanner.sweep_of_pieces (s := .ofText q) hp ht hq
    have htokens : (Scanner.ofText q).tokens =
        .ok (Piece.starts 0 ps ++ [(.finish, (Scanner.ofText q).bound)]) := by
      rw [Scanner.tokens_eq_sweep, hsweep]
      rfl
    refine read_of_derives htokens ?_
    rw [Piece.map_fst_starts]
    exact hT

/-! ## The tokens of a row -/

/-- **Reading undoes spelling.** Take any tokens, each in any of its
spellings, with any white space before, between and behind them, which may
be missing where two tokens do not run together. The tokens of the text are
these, each with the place of its spelling, and the end of the query at the
end of the text. -/
theorem tokens_of_pieces {ps : List Piece} {trailing : List Char} (hp : Piece.Parted ps)
    (ht : Blank trailing) :
    (Scanner.ofText (String.ofList (Piece.text ps ++ trailing))).tokens =
      .ok (Piece.starts 0 ps ++ [(.finish, (Piece.text ps ++ trailing).length)]) := by
  have hsweep := Scanner.sweep_of_pieces (s := .ofText (String.ofList (Piece.text ps ++ trailing)))
    hp ht String.toList_ofList
  rw [Scanner.tokens_eq_sweep, hsweep, Scanner.bound_ofText, String.length_ofList]
  rfl

/-- A query with no more white space than it needs: `$007<='it\'s'aNd b`. -/
def packedPieces : List Piece :=
  [⟨[], .index 7, ['$', '0', '0', '7'], nofun,
     @Token.Spells.index ['0', '0', '7'] (by simp) (by simp) (by decide)⟩,
   ⟨[], .operator .lessOrEqual, ['<', '='], nofun, .lessOrEqual⟩,
   ⟨[], .text (String.ofList ['i', 't', '\'', 's']), ['\'', 'i', 't', '\\', '\'', 's', '\''],
     nofun, .text (.of_escape '\'' ['i', 't', '\'', 's'])⟩,
   ⟨[], .and, ['a', 'N', 'd'], nofun, .keyword (k := "AND") (by decide) (by decide)⟩,
   ⟨[' '], .name (String.ofList ['b']), ['b'], blank_space,
     .name ⟨⟨by decide, by simp⟩, by decide⟩⟩]

/-- White space is needed there between the two words only. -/
theorem tokens_of_pieces_packed :
    Piece.Parted packedPieces ∧ Blank [' '] ∧
      (Scanner.ofText "$007<='it\\'s'aNd b ").tokens =
        .ok [(.index 7, 0), (.operator .lessOrEqual, 4), (.text "it's", 6), (.and, 13),
          (.name "b", 17), (.finish, 19)] := by
  have hp : Piece.Parted packedPieces := by
    simp [Piece.Parted, packedPieces, Token.RunsInto, Token.isWord]
  exact ⟨hp, blank_space, tokens_of_pieces hp blank_space⟩

end Query

end RowQuery
