import RowQuery.Proofs.Pieces
import RowQuery.Proofs.Progress
import RowQuery.Text.Reading
/-!
# Tokens tile their text

A token is read from a range of the text: from the place where it starts to
the place where the scanner stands behind it. The ranges of a text that has
tokens come one behind the other, and what they leave out is white space
(`Scanner.Over.within_or_blank`). Each of them is a `Tile`: cut out of the
text it has its token and no other, so the token does not depend on what is
around it, and with one character more it is no single token. Both are read
off the spelling that was taken there (`Tile.of_taken`); `tokens_tile` puts
the tiles together.
-/

namespace RowQuery

namespace Query

/-- The part of a text from one place to another. -/
def slice (q : String) (a b : ℕ) : String :=
  String.ofList (q.toList.extract a b)

/-- **The range of a token**: a part of the text that has the token by
itself, and as much of the text as the token can have. -/
structure Tile (q : String) (t : Token) (a b : ℕ) : Prop where
  /-- The range is not empty. -/
  lt : a < b
  /-- It does not reach beyond the text. -/
  le : b ≤ q.length
  /-- Cut out of the text it has the token and no other. -/
  alone : (Scanner.ofText (slice q a b)).tokens = .ok [(t, 0), (.finish, b - a)]
  /-- With the next character it is no single token, if that is not white
  space. -/
  maximal : ∀ c, q.toList[b]? = some c → Unicode.isWhiteSpace c = false → ∀ u i j,
    (Scanner.ofText (slice q a (b + 1))).tokens ≠ .ok [(u, i), (.finish, j)]

/-! ## A spelling as a text -/

/-- A text with the end for its only token is white space. -/
theorem Scanner.blank_of_tokens {s : Scanner} {a : Token × ℕ} (h : s.tokens = .ok [a]) :
    Blank s.rest := by
  obtain ⟨ps, trailing, -, hblank, hrest, hts⟩ :=
    exists_pieces_of_sweep (sweep_of_tokens h)
  have happend : [] ++ [a] = Piece.starts s.position ps ++ [(.finish, s.bound)] := hts
  have hnil : Piece.starts s.position ps = [] := (List.append_inj' happend rfl).1.symm
  cases ps with
  | nil => exact hrest ▸ hblank
  | cons p ps => cases hnil

section Spellings

variable {t : Token} {word : List Char}

/-- A spelling as a text has the one token. -/
theorem Token.Spells.tokens_eq (h : t.Spells word) :
    (Scanner.ofText (String.ofList word)).tokens = .ok [(t, 0), (.finish, word.length)] := by
  have hparted : Piece.Parted [⟨[], t, word, blank_nil, h⟩] := List.isChain_singleton _
  have hsweep := Scanner.sweep_of_pieces (s := .ofText (String.ofList word)) hparted blank_nil
    (by simp [Scanner.ofText, Piece.text])
  rw [Scanner.tokens_eq_sweep, hsweep, Scanner.bound_ofText, String.length_ofList]
  rfl

/-- **A spelling with a character behind it that it does not take** is not
one token: if the character is not white space, something is read there. -/
theorem Token.Spells.tokens_ne {c : Char} (h : t.Spells word) (hc : t.takes c = false)
    (hblank : Unicode.isWhiteSpace c = false) (u : Token) (i j : ℕ) :
    (Scanner.ofText (String.ofList (word ++ [c]))).tokens ≠ .ok [(u, i), (.finish, j)] := by
  intro htokens
  set s := Scanner.ofText (String.ofList (word ++ [c])) with hs
  have hrest : s.rest = [] ++ (word ++ [c]) := by simp [hs, Scanner.ofText]
  have hnext := Scanner.next_of_piece (p := ⟨[], t, word, blank_nil, h⟩) hrest (by simpa using hc)
  rw [Scanner.tokens_of_ok (t := t) (by rw [hnext]) h.ne_finish] at htokens
  obtain ⟨ts, hts, hcons⟩ := Text.exists_of_map_eq_ok htokens
  -- the scanner behind the spelling would have found the end
  obtain rfl : ts = [(.finish, j)] := (List.cons.inj hcons).2
  have hwhite := Scanner.blank_of_tokens hts c
  rw [hnext] at hwhite
  simp [hblank] at hwhite

end Spellings

/-! ## One tile -/

section Tiles

variable {q : String} {s : Scanner} {t : Token} {a b i k m : ℕ}

/-- **What is taken as a token is a tile.** -/
theorem Tile.of_taken (h : Lexeme.Taken (q.toList.drop a) t (b - a)) (hlt : a < b)
    (hle : b ≤ q.length) : Tile q t a b := by
  obtain ⟨word, rest, htext, hlen, hspells, htakes⟩ := h
  refine ⟨hlt, hle, ?_, fun c hc hblank u i j => ?_⟩
  · have hslice : slice q a b = String.ofList word := by
      rw [slice, List.extract, htext, hlen, List.take_left]
    rw [hslice, hlen]
    exact hspells.tokens_eq
  · have hhead : rest.head? = some c := by
      have hb : (q.toList.drop a)[b - a]? = some c := by
        rw [List.getElem?_drop, Nat.add_sub_cancel' hlt.le, hc]
      rw [htext, hlen, List.getElem?_append_right le_rfl, Nat.sub_self] at hb
      rw [List.head?_eq_getElem?, hb]
    obtain ⟨tail, rfl⟩ := List.head?_eq_some_iff.1 hhead
    have hsucc : b + 1 - a = word.length + 1 := by omega
    have hslice : slice q a (b + 1) = String.ofList (word ++ [c]) := by
      rw [slice, List.extract, htext, hsucc, List.take_length_add_append]
      rfl
    rw [hslice]
    exact hspells.tokens_ne (htakes c hhead) hblank u i j

namespace Scanner

/-- Where what an answer takes has its end. -/
def endOf (s : Scanner) (k : ℕ) : ℕ :=
  (s.later (k + 1)).position

/-- **A token is read from a tile.** -/
theorem Over.tile (h : Over q s) (hok : s.next.1 = .ok t) (ht : t ≠ .finish) :
    Tile q t s.next.2.start s.next.2.position := by
  refine .of_taken ?_ (start_lt_position hok ht) h.next.le
  have htaken := Lexeme.taken_first (first_of_next hok) ht
  have hlen : s.next.2.position - s.next.2.start =
      (Lexeme.first (s.rest.dropWhile Unicode.isWhiteSpace)).length :=
    Nat.add_sub_cancel_left _ _
  rwa [← h.dropWhile_eq, hlen]

/-! ## What is between the tiles -/

/-- What a scanner passes over before a token is white space. -/
theorem Over.blank_before_start (h : Over q s) (hi : s.position ≤ i) (hi' : i < s.next.2.start) :
    ∃ c, q.toList[i]? = some c ∧ Unicode.isWhiteSpace c = true := by
  set gap := s.rest.takeWhile Unicode.isWhiteSpace with hgap
  have hlt : i - s.position < gap.length := by
    have hstart : s.next.2.start = s.position + gap.length := rfl
    omega
  have hmem : gap[i - s.position] ∈ gap := List.getElem_mem hlt
  refine ⟨gap[i - s.position], ?_, List.mem_takeWhile_imp hmem⟩
  have hrest : s.rest[i - s.position]? = some gap[i - s.position] := by
    rw [← List.takeWhile_append_dropWhile (p := Unicode.isWhiteSpace) (l := s.rest), ← hgap,
      List.getElem?_append_left hlt, List.getElem?_eq_getElem hlt]
  rw [← hrest, h.rest, List.getElem?_drop, Nat.add_sub_cancel' hi]

/-- **What a scanner has passed** it has taken for an answer, or it is white
space. The induction is on the number of answers. -/
theorem Over.within_or_blank (h : Over q s) (hi : s.position ≤ i)
    (hk : i < (s.later k).position) :
    (∃ j < k, s.startOf j ≤ i ∧ i < s.endOf j) ∨
      ∃ c, q.toList[i]? = some c ∧ Unicode.isWhiteSpace c = true := by
  induction k with
  | zero => exact absurd hi (Nat.not_le_of_lt hk)
  | succ k ih =>
    rcases Nat.lt_or_ge i (s.later k).position with hlt | hge
    · rcases ih hlt with ⟨j, hj, hwithin⟩ | hblank
      · exact .inl ⟨j, Nat.lt_succ_of_lt hj, hwithin⟩
      · exact .inr hblank
    · rcases Nat.lt_or_ge i (s.startOf k) with hgap | hstart
      · exact .inr ((h.later k).blank_before_start hge hgap)
      · exact .inl ⟨k, Nat.lt_succ_self k, hstart, hk⟩

/-- An answer starts behind what those before it have taken. -/
theorem endOf_le_startOf (s : Scanner) (h : i < k) : s.endOf i ≤ s.startOf k :=
  (s.position_le_startOf (i + 1)).trans (s.startOf_le_startOf h)

/-! ## All tiles -/

/-- What the tokens of a text are, told by the answers. -/
theorem getElem?_of_map_eq {ts : List (Token × ℕ)}
    (h : ts.map (fun a => (Except.ok (ε := ReadError) a.1, a.2)) =
      (List.range (m + 1)).map fun k => (s.answer k, s.startOf k))
    (hk : k ≤ m) (hok : s.answer k = .ok t) : ts[k]? = some (t, s.startOf k) := by
  have hget := congrArg (·[k]?) h
  simp only [List.getElem?_map, List.getElem?_range (Nat.lt_succ_of_le hk), Option.map_some,
    hok] at hget
  obtain ⟨⟨u, n⟩, hu, heq⟩ := Option.map_eq_some_iff.1 hget
  cases heq
  exact hu

/-- **The tokens of a text tile it.** Each but the last is an answer of the
scanner, at the place where it starts, and the last is the end of the query
at the end of the text. What lies between the start of a token and the place
where the scanner stands behind it is the tile of the token. No two tiles
meet, they are in the order of the tokens, and a character that is in none
of them is white space. -/
theorem tokens_tile {ts : List (Token × ℕ)} (h : (ofText q).tokens = .ok ts) :
    ∃ m, ts.length = m + 1 ∧ ts[m]? = some (.finish, q.length) ∧
      (∀ k < m, ∃ t, t ≠ .finish ∧ ts[k]? = some (t, (ofText q).startOf k) ∧
        (ofText q).answer k = .ok t ∧ Tile q t ((ofText q).startOf k) ((ofText q).endOf k)) ∧
      (∀ i j, i < j → j < m → (ofText q).endOf i ≤ (ofText q).startOf j) ∧
      ∀ i < q.length, (∃ k < m, (ofText q).startOf k ≤ i ∧ i < (ofText q).endOf k) ∨
        ∃ c, q.toList[i]? = some c ∧ Unicode.isWhiteSpace c = true := by
  have hover := (over_ofText q).later
  obtain ⟨m, htokens, ⟨e, -, he⟩ | ⟨hfinish, us, hus, hanswers⟩⟩ := (ofText q).exists_doneAt
  · rw [he] at h
    cases h
  rw [hus] at h
  obtain rfl := Except.ok.inj h
  have hend : (ofText q).startOf m = q.length :=
    (start_of_finish hfinish).trans (hover m).bound_eq
  refine ⟨m, by simpa using congrArg List.length hanswers, ?_, fun k hk => ?_,
    fun i j hij _ => endOf_le_startOf _ hij, fun i hi => ?_⟩
  · rw [getElem?_of_map_eq hanswers le_rfl hfinish, hend]
  · obtain ⟨t, ht, hok⟩ := htokens k hk
    refine ⟨t, ht, getElem?_of_map_eq hanswers hk.le hok, hok, ?_⟩
    rw [endOf, later_succ]
    exact (hover k).tile hok ht
  · rcases Nat.lt_or_ge i ((ofText q).later m).position with hlt | hge
    · exact (over_ofText q).within_or_blank (Nat.zero_le i) hlt
    · exact .inr ((hover m).blank_before_start hge (hi.trans_eq hend.symm))

/-- Between a name and a text, and with no white space there, an operator of
two characters has a tile of two. -/
theorem tokens_tile_operator :
    (ofText "x<='a b' ").tokens =
        .ok [(.name "x", 0), (.operator .lessOrEqual, 1), (.text "a b", 3), (.finish, 9)] ∧
      Tile "x<='a b' " (.operator .lessOrEqual) 1 3 := by
  have htokens : (ofText "x<='a b' ").tokens =
      .ok [(.name "x", 0), (.operator .lessOrEqual, 1), (.text "a b", 3), (.finish, 9)] := by
    cbv
  obtain ⟨m, hm, -, htiles, -⟩ := tokens_tile htokens
  obtain rfl : m = 3 := by simpa using hm.symm
  obtain ⟨t, -, ht, -, htile⟩ := htiles 1 (by decide)
  have hend : (ofText "x<='a b' ").endOf 1 = 3 := by cbv
  simp only [List.getElem?_cons_succ, List.getElem?_cons_zero, Option.some.injEq,
    Prod.mk.injEq] at ht
  obtain ⟨rfl, hstart⟩ := ht
  rw [← hstart, hend] at htile
  exact ⟨htokens, htile⟩

end Scanner

end Tiles

end Query

end RowQuery
