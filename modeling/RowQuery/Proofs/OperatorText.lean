import Mathlib
import RowQuery.Header
import RowQuery.Proofs.Parentheses
import RowQuery.Proofs.Quotes
/-!
# Operators as texts

A text is read as an operator by itself, or as a word of a query. The one way
looks the text up in the table of symbols, the other takes signs and words off
the front of a longer text. They agree on every text without white space
(`Operator.read_alike`). Both come to how the operator is spelled
(`Token.spells_operator_iff`): a text of which a spelling is only a part would
have to be ended by the text of the comparison, which no text in quotes can do
(`Text.Encloses.not_of_quote`).
-/

namespace RowQuery

namespace Text.Encloses

variable {quote c : Char} {xs ys body content : List Char}

/-- **A quote stands in a body behind a backslash only.** -/
theorem not_of_quote (hq : quote ≠ '\\') (hc : c ≠ '\\') :
    ¬ Encloses quote (xs ++ c :: quote :: ys) content := by
  intro h
  have hodd := (h.isBody hq).odd (xs ++ [c]) ys (by simp)
  -- there is no backslash before the quote to take it
  exact hodd (even_backslashes (by simpa using hc))

/-- So what stands behind a quote that no backslash can escape, is not in the
body. -/
theorem exists_of_append {rest : List Char} (h : Encloses quote body content) (hq : quote ≠ '\\')
    (hc : c ≠ '\\') (heq : body ++ quote :: rest = xs ++ c :: quote :: ys) :
    ∃ zs, rest = zs ++ ys := by
  rw [List.append_cons xs, List.append_cons (xs ++ [c])] at heq
  rcases List.append_eq_append_iff.1 heq with ⟨zs, hbody, hrest⟩ | ⟨zs, hbody, -⟩
  · cases zs with
    | nil =>
      rw [List.append_nil, List.append_assoc] at hbody
      exact absurd (hbody ▸ h) (not_of_quote hq hc)
    | cons z zs => exact ⟨zs, (List.cons.inj hrest).2⟩
  · rw [List.append_assoc, List.append_assoc] at hbody
    exact absurd (hbody ▸ h) (not_of_quote hq hc)

end Text.Encloses

namespace Query

/-! ## Letters of either case -/

/-- **A letter of ASCII in either case**: a character as it is, or the small
letter of a capital one. -/
inductive Recased : Char → Char → Prop
  /-- The character. -/
  | same {c : Char} : Recased c c
  /-- The small letter. -/
  | small {c d : Char} : 'A'.toNat ≤ d.toNat → d.toNat ≤ 'Z'.toNat → c.toNat = d.toNat + 32 →
      Recased c d

theorem isLower_iff {c : Char} : c.isLower = true ↔ 'a'.toNat ≤ c.toNat ∧ c.toNat ≤ 'z'.toNat := by
  simp [Char.isLower, UInt32.le_iff_toNat_le]

/-- Characters that are no small letters are made of these. -/
theorem toUpper_eq_iff {c d : Char} (hd : d.isLower = false) :
    c.toUpper = d ↔ Recased c d := by
  by_cases hc : c.isLower = true
  · have hbounds := isLower_iff.1 hc
    have hcode : (Char.ofNat (c.toNat - 32)).toNat = c.toNat - 32 := by
      have hvalid : (c.toNat - 32).isValidChar := .inl (by simp at hbounds; omega)
      rw [Char.toNat_ofNat, if_pos hvalid]
    rw [Char.toUpper_eq_of_isLower hc]
    constructor
    · rintro rfl
      refine .small ?_ ?_ ?_
      all_goals
        rw [hcode]
        simp at hbounds ⊢
        omega
    · intro h
      cases h with
      | same => rw [hc] at hd; cases hd
      | small _ _ hsum =>
        rw [hsum, Nat.add_sub_cancel, Char.ofNat_toNat]
  · rw [Char.toUpper_eq_of_not_isLower hc]
    constructor
    · rintro rfl
      exact .same
    · intro h
      cases h with
      | same => rfl
      | small hlow hhigh hsum =>
        refine absurd (isLower_iff.2 ?_) hc
        simp at hlow hhigh ⊢
        omega

/-- So are texts of them. -/
theorem map_toUpper_eq_iff {word symbol : List Char} (hsymbol : ∀ d ∈ symbol, d.isLower = false) :
    word.map Char.toUpper = symbol ↔ List.Forall₂ Recased word symbol := by
  induction symbol generalizing word with
  | nil => simp
  | cons d symbol ih =>
    obtain ⟨hd, hsymbol⟩ := List.forall_mem_cons.1 hsymbol
    cases word with
    | nil => simp
    | cons c word =>
      rw [List.map_cons, List.cons.injEq, toUpper_eq_iff hd, ih hsymbol, List.forall₂_cons]

/-- Where there are no letters, nothing else is meant. -/
theorem eq_of_recased {word symbol : List Char} (hsymbol : ∀ d ∈ symbol, d.toNat < 'A'.toNat)
    (h : List.Forall₂ Recased word symbol) : word = symbol := by
  induction h with
  | nil => rfl
  | cons hc _ ih =>
    obtain ⟨hd, hsymbol⟩ := List.forall_mem_cons.1 hsymbol
    rw [ih hsymbol]
    cases hc with
    | same => rfl
    | small hlow _ _ => exact absurd hd (Nat.not_lt.2 hlow)

/-- The symbols are written in signs and capital letters. -/
theorem Operator.isLower_symbol (op : Operator) : ∀ d ∈ op.symbol.toList, d.isLower = false := by
  cases op <;> simp [symbol]

/-! ## Spellings of operators -/

/-- All characters of a word can stand in a name. -/
theorem IsWord.continuesName {word : List Char} (h : IsWord word) {c : Char} (hc : c ∈ word) :
    continuesName c = true := by
  cases word with
  | nil => exact h.elim
  | cons d rest =>
    rcases List.mem_cons.1 hc with rfl | hc
    · exact continuesName_of_startsName h.1
    · exact h.2 c hc

namespace Token

variable {word : List Char} {op : Operator} {c : Char}

/-- The symbol of an operator spells it, -/
theorem spells_symbol (op : Operator) : (operator op).Spells op.symbol.toList :=
  Writable.spells (t := .operator op) trivial

/-- **and so does the symbol in letters of either case**, and nothing else. -/
theorem spells_operator_iff :
    (operator op).Spells word ↔ List.Forall₂ Recased word op.symbol.toList := by
  constructor
  · intro h
    rw [← map_toUpper_eq_iff op.isLower_symbol]
    cases h with
    | @keyword k _ _ hk hw =>
      have hkeys : ∀ e ∈ keywords, ∀ o, e.2 = operator o → e.1 = o.symbol := by
        simp [keywords, Operator.symbol]
      have hsymbol : k = op.symbol := hkeys _ hk op rfl
      rw [hw, hsymbol]
    | _ => decide
  · intro h
    have hwritten := spells_symbol op
    have hupper := (map_toUpper_eq_iff op.isLower_symbol).2 h
    cases op with
    | like => exact .keyword (k := "LIKE") (by decide) hupper
    | ilike => exact .keyword (k := "ILIKE") (by decide) hupper
    | regex => exact .keyword (k := "REGEX") (by decide) hupper
    -- the others are signs
    | _ => rwa [eq_of_recased (by simp [Operator.symbol]) h]

/-- Spellings are not empty. -/
theorem Spells.exists_eq_cons {t : Token} (h : t.Spells word) : ∃ c tail, word = c :: tail :=
  Piece.exists_spelling_eq ⟨[], t, word, blank_nil, h⟩

/-- No operator is spelled with white space, nor with a quote. -/
theorem Spells.not_mem_of_operator (h : (operator op).Spells word) (hc : c ∈ word) :
    Unicode.isWhiteSpace c = false ∧ c ≠ '\'' := by
  cases h with
  | keyword hk hw =>
    have hname := (isWord_of_keyword hk hw).continuesName hc
    refine ⟨?_, ?_⟩
    · rw [← Bool.not_eq_true]
      intro hblank
      rw [continuesName_of_isWhiteSpace hblank] at hname
      cases hname
    · rintro rfl
      exact absurd hname (by decide)
  | _ =>
    simp only [List.mem_cons, List.not_mem_nil, or_false] at hc
    first
    | subst hc; decide
    | rcases hc with rfl | rfl <;> decide

end Token

/-- The table of symbols has the operator for a text that spells it. -/
theorem Operator.ofText_eq_ok_iff {s : String} {op : Operator} :
    Operator.ofText s = .ok op ↔ (Token.operator op).Spells s.toList := by
  have htable : Operator.ofText s = .ok op ↔ ofText? s = some op := by
    rw [Operator.ofText]
    cases ofText? s <;> simp
  rw [htable, Token.spells_operator_iff, ← map_toUpper_eq_iff op.isLower_symbol]
  constructor
  · intro h
    have hfound := List.find?_some h
    exact (of_decide_eq_true hfound).symm
  · intro h
    have hsame : op.symbol.toList.map Char.toUpper = s.toList.map Char.toUpper := by
      rw [← h, List.map_map]
      exact List.map_congr_left fun c _ => c.toUpper_toUpper_eq_toUpper
    have hsymbol := ofText?_symbol op
    rw [ofText?, hsame] at hsymbol
    exact hsymbol

/-! ## The first token of a row -/

/-- **A row begins with a spelling of its first token**, behind white space,
and the others are in the rest. -/
theorem IsRow.exists_of_cons {text : List Char} {t : Token} {ts : List Token}
    (h : IsRow text (t :: ts)) :
    ∃ word rest, text.dropWhile Unicode.isWhiteSpace = word ++ rest ∧ t.Spells word ∧
      (∀ c, rest.head? = some c → t.takes c = false) ∧ IsRow rest ts := by
  obtain ⟨ps, trailing, hp, ht, rfl, hps⟩ := h
  obtain _ | ⟨p, ps⟩ := ps
  · cases hps
  · obtain ⟨rfl, rfl⟩ := List.cons.inj hps
    refine ⟨p.spelling, Piece.text ps ++ trailing, ?_, p.spells, fun c => hp.not_takes ht,
      ps, trailing, (List.isChain_cons.1 hp).2, ht, rfl, rfl⟩
    obtain ⟨c, tail, hc⟩ := p.exists_spelling_eq
    have hbegins := p.spells
    rw [hc] at hbegins
    rw [Piece.text, List.append_assoc, List.dropWhile_append_of_pos p.blank, hc]
    simp [hbegins.beginsWith.notBlank]

/-- A row without tokens is white space. -/
theorem IsRow.blank {text : List Char} (h : IsRow text []) : Blank text := by
  obtain ⟨ps, trailing, -, ht, rfl, hps⟩ := h
  obtain rfl := List.map_eq_nil_iff.1 hps
  exact ht

/-! ## Operators in a query -/

/-- The query that compares the first column with a text, by what another text
says. -/
def trying (s value : String) : String :=
  "$1 " ++ s ++ " " ++ Text.quoted '\'' value

section Trying

variable {s value : String} {op : Operator}

theorem toList_trying (s value : String) :
    (trying s value).toList =
      '$' :: '1' :: ' ' :: (s.toList ++ ' ' :: '\'' :: (Text.escape '\'' value.toList ++ ['\''])) := by
  simp [trying, Text.quoted]

/-- It is the comparison if its tokens are those of one. -/
theorem read_trying_iff :
    read (trying s value) = .ok [[.comparison ⟨.index 1, op, .text value⟩]] ↔
      IsRow (trying s value).toList [.index 1, .operator op, .text value] := by
  constructor
  · intro hread
    obtain ⟨ts, hrow, hterm⟩ := isPhrase_term_of_read hread
    cases hterm with
    | comparison hx hy =>
      cases hx
      cases hy
      exact hrow
  · intro hrow
    exact read_iff_isRow.2 ⟨_, hrow, .alternative (.single (.comparison (.index Nat.one_pos) .text))⟩

/-- So it is where the text spells the operator. -/
theorem isRow_trying (h : (Token.operator op).Spells s.toList) :
    IsRow (trying s value).toList [.index 1, .operator op, .text value] := by
  have hcolumn : IsRow ['$', '1'] [.index 1] :=
    .of_spells (Token.Writable.spells (t := .index 1) (by simp [Token.Writable]))
  have hvalue : IsRow ('\'' :: (Text.escape '\'' value.toList ++ ['\''])) [.text value] :=
    .of_spells (Token.Writable.spells (t := .text value) trivial)
  have hgap : [' '] ≠ [] := List.cons_ne_nil _ _
  have hright := (IsRow.of_spells h).append hvalue blank_space fun hnil => absurd hnil hgap
  have hrow := hcolumn.append hright blank_space fun hnil => absurd hnil hgap
  rw [toList_trying]
  exact hrow

/-- Behind the column comes the rest of the row. -/
theorem IsRow.of_column {text : List Char} {ts : List Token}
    (h : IsRow ('$' :: '1' :: ' ' :: text) (.index 1 :: ts)) : IsRow (' ' :: text) ts := by
  obtain ⟨column, behind, htext, hcolumn, htakes, h⟩ := h.exists_of_cons
  have hsplit : '$' :: '1' :: ' ' :: text = column ++ behind := htext
  have hfirst : Lexeme.first (column ++ behind) = ⟨.ok (.index 1), 2⟩ := by
    rw [← hsplit]
    rfl
  rw [Lexeme.first_of_spells hcolumn htakes] at hfirst
  have hlen : column.length = 2 := congrArg Lexeme.length hfirst
  have hbehind : ' ' :: text = behind := by
    have hdrop := congrArg (List.drop column.length) hsplit
    rw [List.drop_left, hlen] at hdrop
    exact hdrop
  rwa [hbehind]

/-- **No text in quotes begins before the blank** in front of another one, and
ends with it. -/
theorem IsRow.isWhiteSpace_of_text {c : Char} {xs ys : List Char} {value : String}
    (h : IsRow (c :: (xs ++ ' ' :: '\'' :: (ys ++ ['\'']))) [.text value]) :
    Unicode.isWhiteSpace c = true := by
  by_contra hc
  obtain ⟨word, rest, htext, hword, -, hrest⟩ := h.exists_of_cons
  rw [List.dropWhile_cons_of_neg hc] at htext
  cases hword with
  | keyword hk _ => simp [Token.keywords] at hk
  | @text body _ hbody =>
    rw [List.cons_append, List.append_assoc, List.cons_append, List.nil_append] at htext
    obtain ⟨-, htext⟩ := List.cons.inj htext
    obtain ⟨zs, rfl⟩ := hbody.exists_of_append (by decide) (by decide) htext.symm
    -- what is behind the text would have to be blank, and ends with a quote
    have hblank := hrest.blank '\'' (by simp)
    exact absurd hblank (by decide)

/-- **And it is so nowhere else.** No operator has white space in it, so its
spelling is the text or a part of it; and behind a part of it the text in quotes
would have to begin before the blank. -/
theorem spells_of_isRow_trying (hs : ∀ c ∈ s.toList, Unicode.isWhiteSpace c = false)
    (h : IsRow (trying s value).toList [.index 1, .operator op, .text value]) :
    (Token.operator op).Spells s.toList := by
  rw [toList_trying] at h
  obtain ⟨word, rest, htext, hword, -, hvalue⟩ := h.of_column.exists_of_cons
  have hsplit : s.toList ++ ' ' :: '\'' :: (Text.escape '\'' value.toList ++ ['\'']) =
      word ++ rest := by
    rw [List.dropWhile_cons_of_pos (by decide)] at htext
    cases hempty : s.toList with
    | cons c cs =>
      have hc : ¬ Unicode.isWhiteSpace c = true := by simp [hs c (by simp [hempty])]
      rw [hempty, List.cons_append, List.dropWhile_cons_of_neg hc] at htext
      exact htext
    | nil =>
      -- the operator would begin with the quote of the text
      exfalso
      obtain ⟨d, tail, rfl⟩ := hword.exists_eq_cons
      have hquote : '\'' = d := by
        rw [hempty] at htext
        exact (List.cons.inj htext).1
      exact (hword.not_mem_of_operator List.mem_cons_self).2 hquote.symm
  rcases List.append_eq_append_iff.1 hsplit with ⟨more, hmore, hrest⟩ | ⟨more, hmore, hrest⟩
  · cases more with
    | nil => rwa [hmore, List.append_nil] at hword
    | cons c more =>
      -- the blank would be in the operator
      have hc := (List.cons.inj hrest).1
      have hmem : c ∈ word := by simp [hmore]
      have hblank := (hword.not_mem_of_operator hmem).1
      rw [← hc] at hblank
      exact absurd hblank (by decide)
  · cases more with
    | nil => rwa [hmore, List.append_nil]
    | cons c more =>
      -- the text would have to begin in front of the blank
      have hc : Unicode.isWhiteSpace c = true := (hrest ▸ hvalue).isWhiteSpace_of_text
      rw [hs c (by simp [hmore])] at hc
      cases hc

/-- So the two ways to read an operator agree. -/
theorem ofText_eq_ok_iff_read (hs : ∀ c ∈ s.toList, Unicode.isWhiteSpace c = false) :
    Operator.ofText s = .ok op ↔
      read (trying s value) = .ok [[.comparison ⟨.index 1, op, .text value⟩]] := by
  rw [Operator.ofText_eq_ok_iff, read_trying_iff]
  exact ⟨isRow_trying, spells_of_isRow_trying hs⟩

/-- A text that names no operator is refused as it is. -/
theorem Operator.ofText_eq_error_iff :
    Operator.ofText s = .error (.unsupportedOperator s) ↔ ∀ op, Operator.ofText s ≠ .ok op := by
  rw [Operator.ofText]
  cases ofText? s <;> simp

/-- **Operators are read alike by themselves and in queries.** Take a text
without white space, and put it between the first column and a text in quotes,
with a blank on either side. It names an operator exactly if this is read as the
one comparison by that operator; and exactly if this is so for no operator, it
is refused as it is. The texts that name an operator are those of its symbol,
in which capital letters of ASCII may be small and nothing else may differ. So
in both ways each operator is read from its symbol. -/
theorem Operator.read_alike (s value : String)
    (hs : ∀ c ∈ s.toList, Unicode.isWhiteSpace c = false) :
    (∀ op, Operator.ofText s = .ok op ↔
      read (trying s value) = .ok [[.comparison ⟨.index 1, op, .text value⟩]]) ∧
    (Operator.ofText s = .error (.unsupportedOperator s) ↔
      ∀ op, read (trying s value) ≠ .ok [[.comparison ⟨.index 1, op, .text value⟩]]) ∧
    (∀ op, Operator.ofText s = .ok op ↔ List.Forall₂ Recased s.toList op.symbol.toList) ∧
    ∀ op : Operator, Operator.ofText op.symbol = .ok op ∧
      read (trying op.symbol value) = .ok [[.comparison ⟨.index 1, op, .text value⟩]] := by
  refine ⟨fun op => ofText_eq_ok_iff_read hs, ?_, fun op => ?_, fun op => ?_⟩
  · rw [Operator.ofText_eq_error_iff]
    exact forall_congr' fun op => not_congr (ofText_eq_ok_iff_read hs)
  · rw [Operator.ofText_eq_ok_iff, Token.spells_operator_iff]
  · have hsymbol := Token.spells_symbol op
    exact ⟨Operator.ofText_eq_ok_iff.2 hsymbol, read_trying_iff.2 (isRow_trying hsymbol)⟩

/-- Small letters are those of the operator, and the sign of Kelvin is no
letter of it, though its small letter is. -/
theorem Operator.read_alike_kelvin :
    (∀ c ∈ "iLike".toList, Unicode.isWhiteSpace c = false) ∧
      (∀ c ∈ "LI\u212aE".toList, Unicode.isWhiteSpace c = false) ∧
      read "$1 iLike 'v'" = .ok [[.comparison ⟨.index 1, .ilike, .text "v"⟩]] ∧
      Operator.ofText "LI\u212aE" = .error (.unsupportedOperator "LI\u212aE") ∧
      ∀ op, read "$1 LI\u212aE 'v'" ≠ .ok [[.comparison ⟨.index 1, op, .text "v"⟩]] := by
  have hilike : ∀ c ∈ "iLike".toList, Unicode.isWhiteSpace c = false := by
    simp
    decide
  have hkelvin : ∀ c ∈ "LI\u212aE".toList, Unicode.isWhiteSpace c = false := by
    simp
    decide
  have hread : Operator.ofText "iLike" = .ok .ilike := by decide
  have hrefused : Operator.ofText "LI\u212aE" = .error (.unsupportedOperator "LI\u212aE") := by
    decide
  exact ⟨hilike, hkelvin, ((Operator.read_alike "iLike" "v" hilike).1 .ilike).1 hread, hrefused,
    (Operator.read_alike "LI\u212aE" "v" hkelvin).2.1.1 hrefused⟩

end Trying

end Query

end RowQuery
