import Mathlib
import RowQuery.Proofs.Scanning
/-!
# Spellings of tokens

How a token may be written, told without a scanner: `Token.Spells` has a
constructor for each kind of token, and `Text.Encloses` tells how content is
written between quotes. A token ends where the next character is not one
that it takes (`Token.takes`). The two together say what a lexeme is: a text
starts with a token exactly if it starts with a spelling of it that the rest
does not go on with (`Lexeme.first_of_spells`, `Lexeme.taken_first`).
-/

namespace RowQuery

namespace Text

/-- How content is written between two quotes: the body, and the content. -/
inductive Encloses (quote : Char) : List Char → List Char → Prop
  /-- Nothing between the quotes. -/
  | nil : Encloses quote [] []
  /-- A character that stands for itself. -/
  | plain {c : Char} {body content : List Char} :
      c ≠ quote → c ≠ '\\' → Encloses quote body content →
      Encloses quote (c :: body) (c :: content)
  /-- A quote or a backslash behind the backslash that escapes it. -/
  | escaped {c : Char} {body content : List Char} :
      c = quote ∨ c = '\\' → Encloses quote body content →
      Encloses quote ('\\' :: c :: body) (c :: content)
  /-- A backslash before any other character is kept. -/
  | kept {c : Char} {body content : List Char} :
      c ≠ quote → c ≠ '\\' → Encloses quote body content →
      Encloses quote ('\\' :: c :: body) ('\\' :: c :: content)

namespace Encloses

variable {quote : Char} {body content : List Char}

/-- Escaping is a way to write any content. -/
theorem of_escape (quote : Char) (cs : List Char) : Encloses quote (escape quote cs) cs := by
  induction cs with
  | nil => exact .nil
  | cons c cs ih =>
    rw [escape, List.flatMap_cons, ← escape]
    by_cases hc : c = quote ∨ c = '\\'
    · rw [if_pos hc]
      exact .escaped hc ih
    · rw [if_neg hc]
      exact .plain (fun h => hc (.inl h)) (fun h => hc (.inr h)) ih

/-- **The closing quote is found behind the body.** -/
theorem body?_eq (h : Encloses quote body content) (hq : quote ≠ '\\') (after : List Char) :
    body? quote (body ++ quote :: after) = some (body, after) := by
  induction h with
  | nil => simp [body?.eq_def quote (quote :: after)]
  | @plain c _ _ hc hb _ ih => simp [body?.eq_def quote (c :: _), hc, hb, ih]
  | @escaped c _ _ _ _ ih => simp [body?.eq_def quote ('\\' :: _), hq.symm, ih]
  | @kept c _ _ _ _ _ ih => simp [body?.eq_def quote ('\\' :: _), hq.symm, ih]

/-- And resolving the escapes of the body gives the content. -/
theorem unescape_eq (h : Encloses quote body content) : unescape quote body = content := by
  induction h with
  | nil => rfl
  | plain _ hb _ ih => simp [unescape, hb, ih]
  | escaped hc _ ih => simp [unescape, hc, ih]
  | kept hc hb _ ih => simp [unescape, hc, hb, ih]

/-- Every body that is found is one that encloses its content. -/
theorem of_body? {text after : List Char} (h : body? quote text = some (body, after)) :
    Encloses quote body (unescape quote body) := by
  fun_induction body? quote text generalizing body after with
  | case1 => cases h
  | case2 => cases h; exact .nil
  | case3 => cases h
  | case4 d rest _ ih =>
    obtain ⟨⟨inner, behind⟩, hb, heq⟩ := Option.map_eq_some_iff.1 h
    cases heq
    rw [unescape.eq_1]
    by_cases hd : d = quote ∨ d = '\\'
    · rw [if_pos hd]
      exact .escaped hd (ih hb)
    · rw [if_neg hd]
      exact .kept (fun h => hd (.inl h)) (fun h => hd (.inr h)) (ih hb)
  | case5 c rest hq hb ih =>
    obtain ⟨⟨inner, behind⟩, hi, heq⟩ := Option.map_eq_some_iff.1 h
    cases heq
    have hplain : unescape quote (c :: inner) = c :: unescape quote inner := by
      simp [unescape, hb]
    rw [hplain]
    exact .plain hq hb (ih hi)

end Encloses

/-- A number is read back from its numeral, with any number of zeros before
it. -/
theorem numeral_decimal (zeros n : ℕ) :
    numeral (List.replicate zeros '0' ++ (decimal n).toList) = n := by
  have hfold (digits : List Char) : numeral digits = Nat.ofDigitChars 10 digits 0 :=
    Nat.ofDigitChars_eq_foldl.symm
  -- the zeros leave the number at nothing, where the numeral starts from
  rw [hfold, Nat.ofDigitChars_append, Nat.ofDigitChars_replicate_zero, decimal,
    String.toList_ofList, Nat.mul_zero, Nat.ofDigitChars_ten_toDigits]

/-- Zeros and a numeral are digits. -/
theorem isDigit_of_mem_decimal {zeros n : ℕ} {c : Char}
    (hc : c ∈ List.replicate zeros '0' ++ (decimal n).toList) : c.isDigit = true := by
  rcases List.mem_append.1 hc with hc | hc
  · rw [List.eq_of_mem_replicate hc]
    rfl
  · rw [decimal, String.toList_ofList] at hc
    exact Nat.isDigit_of_mem_toDigits (by decide) (by decide) hc

end Text

namespace Query

/-! ## Characters -/

/-- The code points of white space. -/
def blankCodes : List ℕ :=
  [0x9, 0xA, 0xB, 0xC, 0xD, 0x20, 0x85, 0xA0, 0x1680, 0x2000, 0x2001, 0x2002, 0x2003, 0x2004,
   0x2005, 0x2006, 0x2007, 0x2008, 0x2009, 0x200A, 0x2028, 0x2029, 0x202F, 0x205F, 0x3000]

/-- There are no others. -/
theorem mem_blankCodes {c : Char} (h : Unicode.isWhiteSpace c = true) : c.toNat ∈ blankCodes := by
  simp only [Unicode.isWhiteSpace, CharSet.has, CharSet.hasCode, Unicode.whiteSpace, List.any_cons,
    List.any_nil, Bool.or_eq_true, Bool.and_eq_true, decide_eq_true_eq, Bool.false_eq_true,
    or_false] at h
  simp only [blankCodes, List.mem_cons, List.not_mem_nil, or_false]
  omega

/-- None of them is a letter, a numeral or an underscore. -/
theorem continuesName_blankCodes : ∀ n ∈ blankCodes, continuesName (Char.ofNat n) = false := by
  decide +kernel

/-- **White space ends a name.** -/
theorem continuesName_of_isWhiteSpace {c : Char} (h : Unicode.isWhiteSpace c = true) :
    continuesName c = false := by
  have hcode := continuesName_blankCodes c.toNat (mem_blankCodes h)
  rwa [Char.ofNat_toNat] at hcode

/-- What starts a name can stand in it. -/
theorem continuesName_of_startsName {c : Char} (h : startsName c = true) :
    continuesName c = true := by
  simp only [startsName, continuesName, Unicode.isAlphabetic, Unicode.isAlphanumeric,
    Bool.or_eq_true, decide_eq_true_eq] at h ⊢
  rcases h with h | h
  · left
    split at h
    · next hc => rw [if_pos hc, Char.isAlphanum, h, Bool.true_or]
    · next hc => rw [if_neg hc, h, Bool.true_or]
  · exact .inr h

theorem toNat_lt_of_isDigit {c : Char} (h : c.isDigit = true) : c.toNat < 58 := by
  simp only [Char.isDigit, Bool.and_eq_true, decide_eq_true_eq, UInt32.le_iff_toNat_le] at h
  exact Nat.lt_succ_of_le h.2

theorem continuesName_of_isDigit {c : Char} (h : c.isDigit = true) : continuesName c = true := by
  have hc : c.toNat < 128 := Nat.lt_trans (toNat_lt_of_isDigit h) (by decide)
  simp [continuesName, Unicode.isAlphanumeric, hc, Char.isAlphanum, h]

theorem toNat_lt_of_isAlpha {c : Char} (h : c.isAlpha = true) : c.toNat < 128 := by
  simp only [Char.isAlpha, Char.isUpper, Char.isLower, Bool.or_eq_true, Bool.and_eq_true,
    decide_eq_true_eq, ge_iff_le, UInt32.le_iff_toNat_le] at h
  have hz : c.toNat ≤ 122 := by
    rcases h with h | h
    · exact Nat.le_trans h.2 (by decide)
    · exact h.2
  omega

theorem startsName_of_isAlpha {c : Char} (h : c.isAlpha = true) : startsName c = true := by
  simp [startsName, Unicode.isAlphabetic, toNat_lt_of_isAlpha h, h]

theorem startsName_of_isDigit {c : Char} (h : c.isDigit = true) : startsName c = false := by
  have hcode : ∀ n ∈ List.range 58, (Char.ofNat n).isDigit = true →
      startsName (Char.ofNat n) = false := by
    decide
  have hstarts := hcode c.toNat (List.mem_range.2 (toNat_lt_of_isDigit h))
  rw [Char.ofNat_toNat] at hstarts
  exact hstarts h

/-! ## Words -/

/-- Whether a text is a word: it starts as a name and goes on as one. -/
def IsWord : List Char → Prop
  | [] => False
  | c :: rest => startsName c = true ∧ ∀ d ∈ rest, continuesName d = true

/-- A bare name: a word that is no keyword in any ASCII case. -/
def IsBareName (word : List Char) : Prop :=
  IsWord word ∧ ∀ k ∈ Token.keywords, k.1.toList ≠ word.map Char.toUpper

namespace Token

variable {k : String} {t : Token} {word : List Char}

/-- Keywords are letters of ASCII, and each stands in the list once. -/
theorem ofWord_keyword (hk : (k, t) ∈ keywords) (hw : word.map Char.toUpper = k.toList) :
    ofWord word = t := by
  have hfind : ∀ e ∈ keywords, (keywords.find? fun d => d.1.toList = e.1.toList) = some e := by
    decide +kernel
  simp only [ofWord, hw, hfind _ hk]

/-- Other words are names. -/
theorem ofWord_bareName (h : IsBareName word) : ofWord word = .name (String.ofList word) := by
  have hfind : (keywords.find? fun d => d.1.toList = word.map Char.toUpper) = none :=
    List.find?_eq_none.2 fun e he => by simpa using h.2 e he
  simp only [ofWord, hfind]

/-- A keyword in any case is a word. -/
theorem isWord_of_keyword (hk : (k, t) ∈ keywords) (hw : word.map Char.toUpper = k.toList) :
    IsWord word := by
  have halpha : ∀ e ∈ keywords, e.1.toList ≠ [] ∧ ∀ c ∈ e.1.toList, c.isAlpha = true := by
    simp [keywords]
  obtain ⟨hne, hall⟩ := halpha _ hk
  have hword : ∀ c ∈ word, startsName c = true := fun c hc => by
    have hupper := hall c.toUpper (hw ▸ List.mem_map_of_mem hc)
    rw [Char.isAlpha_toUpper_eq_isAlpha] at hupper
    exact startsName_of_isAlpha hupper
  cases word with
  | nil => exact absurd hw.symm hne
  | cons c rest =>
    exact ⟨hword c List.mem_cons_self, fun d hd =>
      continuesName_of_startsName (hword d (List.mem_cons_of_mem c hd))⟩

/-! ## The spellings of a token -/

/-- **How a token may be written.** -/
inductive Spells : Token → List Char → Prop
  /-- A bare name as it is. -/
  | name {word : List Char} : IsBareName word → Spells (.name (String.ofList word)) word
  /-- A keyword in any mix of ASCII cases. -/
  | keyword {k : String} {t : Token} {word : List Char} :
      (k, t) ∈ keywords → word.map Char.toUpper = k.toList → Spells t word
  /-- A quoted name between double quotes. -/
  | quotedName {body content : List Char} :
      Text.Encloses '"' body content →
      Spells (.quotedName (String.ofList content)) ('"' :: (body ++ ['"']))
  /-- A text between single quotes. -/
  | text {body content : List Char} :
      Text.Encloses '\'' body content →
      Spells (.text (String.ofList content)) ('\'' :: (body ++ ['\'']))
  /-- A number behind a dollar sign, in any number of digits. -/
  | index {digits : List Char} :
      digits ≠ [] → (∀ d ∈ digits, d.isDigit = true) → Text.numeral digits < Lexeme.indexBound →
      Spells (.index (Text.numeral digits)) ('$' :: digits)
  /-- The sign of equality. -/
  | equal : Spells (.operator .equal) ['=']
  /-- The sign of difference. -/
  | notEqual : Spells (.operator .notEqual) ['<', '>']
  /-- The sign of less. -/
  | less : Spells (.operator .less) ['<']
  /-- The sign of greater. -/
  | greater : Spells (.operator .greater) ['>']
  /-- The sign of less or equal. -/
  | lessOrEqual : Spells (.operator .lessOrEqual) ['<', '=']
  /-- The sign of greater or equal. -/
  | greaterOrEqual : Spells (.operator .greaterOrEqual) ['>', '=']
  /-- An opening parenthesis. -/
  | opening : Spells .opening ['(']
  /-- A closing parenthesis. -/
  | closing : Spells .closing [')']

/-- Every word is spelled by itself, as a keyword or as a name. -/
theorem spells_ofWord (h : IsWord word) : (ofWord word).Spells word := by
  by_cases hk : ∃ e ∈ keywords, e.1.toList = word.map Char.toUpper
  · obtain ⟨⟨k, t⟩, he, hw⟩ := hk
    rw [ofWord_keyword he hw.symm]
    exact .keyword he hw.symm
  · have hbare : IsBareName word := ⟨h, fun e he heq => hk ⟨e, he, heq⟩⟩
    rw [ofWord_bareName hbare]
    exact .name hbare

/-- A number may be written with zeros before it. -/
theorem spells_index {n : ℕ} (hn : n < Lexeme.indexBound) (zeros : ℕ) :
    (index n).Spells ('$' :: (List.replicate zeros '0' ++ (Text.decimal n).toList)) := by
  have hne : List.replicate zeros '0' ++ (Text.decimal n).toList ≠ [] := by
    simp [Text.decimal, Nat.toDigits_ne_nil]
  have hspells := Spells.index hne (fun d hd => Text.isDigit_of_mem_decimal hd)
    (by rw [Text.numeral_decimal]; exact hn)
  rwa [Text.numeral_decimal] at hspells

/-- The end of the query is not written. -/
theorem Spells.ne_finish (h : t.Spells word) : t ≠ .finish := by
  cases h with
  | keyword hk hw => rw [← ofWord_keyword hk hw]; exact ofWord_ne_finish word
  | _ => simp

/-! ## Where a token ends -/

/-- Whether the token is a word: a name or a keyword. -/
def isWord : Token → Bool
  | name _ | and | or | not | operator .like | operator .ilike | operator .regex => true
  | _ => false

/-- Whether the token would be read on with the character. -/
def takes (t : Token) (c : Char) : Bool :=
  match t with
  | index _ => c.isDigit
  | operator .less => c = '=' || c = '>'
  | operator .greater => c = '='
  | t => t.isWord && continuesName c

/-- **Tokens that run together** where no white space parts them: two words,
and two operators whose signs begin the sign of a third. -/
def RunsInto (t u : Token) : Prop :=
  match t with
  | operator .less => u = operator .equal ∨ u = operator .greater ∨ u = operator .greaterOrEqual
  | operator .greater => u = operator .equal
  | t => t.isWord = true ∧ u.isWord = true

/-- The token of a word is one. -/
theorem isWord_ofWord (word : List Char) : (ofWord word).isWord = true := by
  have hkeys : ∀ e ∈ keywords, e.2.isWord = true := by decide
  rw [ofWord]
  split
  · next k t h => exact hkeys _ (List.mem_of_find?_eq_some h)
  · rfl

/-- A word is read on with what continues a name. -/
theorem takes_of_isWord (h : t.isWord = true) (c : Char) : t.takes c = continuesName c := by
  cases t with
  | operator op => cases op <;> first | rfl | cases h
  | _ => first | rfl | cases h

theorem runsInto_of_isWord (h : t.isWord = true) (u : Token) :
    t.RunsInto u ↔ u.isWord = true := by
  cases t with
  | operator op => cases op <;> simp_all [RunsInto, isWord]
  | _ => simp_all [RunsInto, isWord]

/-- **No token is read on with white space.** -/
theorem takes_of_isWhiteSpace (t : Token) {c : Char} (h : Unicode.isWhiteSpace c = true) :
    t.takes c = false := by
  have hname := continuesName_of_isWhiteSpace h
  have hdigit : c.isDigit = false := by
    by_contra hc
    rw [continuesName_of_isDigit (by simpa using hc)] at hname
    cases hname
  have hsign {d : Char} (hd : Unicode.isWhiteSpace d = false) : c ≠ d := by
    rintro rfl
    rw [h] at hd
    cases hd
  have hequal : c ≠ '=' := hsign (by decide)
  have hgreater : c ≠ '>' := hsign (by decide)
  unfold takes
  split
  · exact hdigit
  · simp [hequal, hgreater]
  · simp [hequal]
  · simp [hname]

/-! ## Where a token begins -/

/-- What the first character of a spelling tells about the token. -/
structure BeginsWith (u : Token) (c : Char) : Prop where
  /-- A word starts with a part of a name, and no other token does. -/
  word : continuesName c = u.isWord
  /-- The sign of equality is the only one that starts with it. -/
  equal : c = '=' ↔ u = .operator .equal
  /-- Two signs start with that of greater. -/
  greater : c = '>' ↔ u = .operator .greater ∨ u = .operator .greaterOrEqual
  /-- No token starts with white space. -/
  notBlank : Unicode.isWhiteSpace c = false
  /-- Nor with a digit. -/
  notDigit : c.isDigit = false

/-- A word begins as a name. -/
theorem beginsWith_of_startsName {c : Char} (ht : t.isWord = true) (h : startsName c = true) :
    t.BeginsWith c where
  word := by rw [continuesName_of_startsName h, ht]
  equal := by
    have hc : c ≠ '=' := by
      rintro rfl
      exact absurd h (by decide)
    have hu : t ≠ .operator .equal := by
      rintro rfl
      cases ht
    simp [hc, hu]
  greater := by
    have hc : c ≠ '>' := by
      rintro rfl
      exact absurd h (by decide)
    have hu : ¬ (t = .operator .greater ∨ t = .operator .greaterOrEqual) := by
      rintro (rfl | rfl) <;> cases ht
    simp [hc, hu]
  notBlank := by
    by_contra hb
    have hname := continuesName_of_isWhiteSpace (by simpa using hb)
    rw [continuesName_of_startsName h] at hname
    cases hname
  notDigit := by
    by_contra hd
    have hname := startsName_of_isDigit (by simpa using hd)
    rw [h] at hname
    cases hname

/-- **What a spelling begins with.** -/
theorem Spells.beginsWith {c : Char} (h : t.Spells (c :: word)) : t.BeginsWith c := by
  cases h with
  | name hw => exact beginsWith_of_startsName rfl hw.1.1
  | keyword hk hw =>
    have ht : t.isWord = true := by rw [← ofWord_keyword hk hw]; exact isWord_ofWord _
    exact beginsWith_of_startsName ht (isWord_of_keyword hk hw).1
  -- the others are signs, quotes and the dollar sign
  | _ => exact ⟨by cbv, by simp, by simp, by decide, by decide⟩

/-- **A token is read on with the first character of another** exactly if
the two run together. -/
theorem Spells.takes_iff {u : Token} {c : Char} (h : u.Spells (c :: word)) (t : Token) :
    t.takes c = true ↔ t.RunsInto u := by
  have hc := h.beginsWith
  by_cases ht : t.isWord = true
  · rw [takes_of_isWord ht, runsInto_of_isWord ht, hc.word]
  · -- of the others only numbers, and two of the operators, can be read on
    cases t with
    | operator op =>
      cases op with
      | less => simp [takes, RunsInto, hc.equal, hc.greater]
      | greater => simp [takes, RunsInto, hc.equal]
      | _ => simp_all [takes, RunsInto]
    | index n => simp [takes, RunsInto, hc.notDigit, isWord]
    | _ => simp_all [takes, RunsInto]

end Token

/-! ## Lexemes -/

/-- A run of characters ends where the next one does not belong to it. -/
theorem takeWhile_append_of_head {p : Char → Bool} {run rest : List Char}
    (hrun : ∀ c ∈ run, p c = true) (hrest : ∀ c, rest.head? = some c → p c = false) :
    (run ++ rest).takeWhile p = run := by
  have hnil : rest.takeWhile p = [] := by
    cases rest with
    | nil => rfl
    | cons c rest => rw [List.takeWhile_cons, hrest c rfl]; rfl
  rw [List.takeWhile_append_of_pos hrun, hnil, List.append_nil]

/-- Behind a run of characters comes one that does not belong to it. -/
theorem of_head?_dropWhile {p : Char → Bool} {text : List Char} {c : Char}
    (h : (text.dropWhile p).head? = some c) : p c = false := by
  have hnot := List.head?_dropWhile_not p text
  rw [h] at hnot
  simpa using hnot

namespace Lexeme

variable {t : Token} {word rest : List Char}

/-- A text that starts as a name starts with a word. -/
theorem first_of_startsName {c : Char} (h : startsName c = true) (rest : List Char) :
    first (c :: rest) =
      ⟨.ok (.ofWord (c :: rest.takeWhile continuesName)),
        (rest.takeWhile continuesName).length + 1⟩ := by
  rw [first, if_pos h]
  -- a sign in the place of the character would not start a name
  all_goals
    intros
    subst_vars
    exact absurd h (by decide)

/-- So a word is read to its end. -/
theorem first_of_isWord (hw : IsWord word)
    (hrest : ∀ c, rest.head? = some c → continuesName c = false) :
    first (word ++ rest) = ⟨.ok (.ofWord word), word.length⟩ := by
  cases word with
  | nil => exact hw.elim
  | cons c tail =>
    rw [List.cons_append, first_of_startsName hw.1, takeWhile_append_of_head hw.2 hrest,
      List.length_cons]

/-- Enclosed content is read to the quote that closes it. -/
theorem ofQuoted_of_encloses {quote : Char} {body content : List Char}
    (h : Text.Encloses quote body content) (hq : quote ≠ '\\') (token : String → Token)
    (unclosed : ReadError.Cause) (rest : List Char) :
    ofQuoted quote token unclosed (body ++ quote :: rest) =
      ⟨.ok (token (String.ofList content)), (quote :: (body ++ [quote])).length⟩ := by
  simp [ofQuoted, h.body?_eq hq rest, h.unescape_eq]

/-- **A spelling is read as its token**, to its end, unless the rest goes
on with it. -/
theorem first_of_spells (h : t.Spells word)
    (hrest : ∀ c, rest.head? = some c → t.takes c = false) :
    first (word ++ rest) = ⟨.ok t, word.length⟩ := by
  cases h with
  | name hw =>
    rw [first_of_isWord hw.1 hrest, Token.ofWord_bareName hw]
  | keyword hk hw =>
    have ht : t.isWord = true := by
      rw [← Token.ofWord_keyword hk hw]
      exact Token.isWord_ofWord _
    rw [first_of_isWord (Token.isWord_of_keyword hk hw) fun c hc => ?_,
      Token.ofWord_keyword hk hw]
    rw [← Token.takes_of_isWord ht, hrest c hc]
  | quotedName hb =>
    rw [List.cons_append, List.append_assoc]
    exact ofQuoted_of_encloses hb (by decide) _ _ rest
  | text hb =>
    rw [List.cons_append, List.append_assoc]
    exact ofQuoted_of_encloses hb (by decide) _ _ rest
  | @index digits hne hd hn =>
    have hrun := takeWhile_append_of_head hd hrest
    simp only [List.cons_append, first, ofDollar, hrun, List.isEmpty_iff, hne, if_pos hn, if_false]
    simp
  | equal | notEqual | lessOrEqual | greaterOrEqual | opening | closing => rfl
  | less =>
    cases rest with
    | nil => rfl
    | cons c rest =>
      have hc := hrest c rfl
      simp only [Token.takes, Bool.or_eq_false_iff, decide_eq_false_iff_not] at hc
      simp [first, hc]
  | greater =>
    cases rest with
    | nil => rfl
    | cons c rest =>
      have hc := hrest c rfl
      simp only [Token.takes, decide_eq_false_iff_not] at hc
      simp [first, hc]

/-- What a lexeme says of the start of a text: it is a spelling of the token,
and the rest does not go on with it. -/
def Taken (text : List Char) (t : Token) (length : ℕ) : Prop :=
  ∃ word rest, text = word ++ rest ∧ length = word.length ∧ t.Spells word ∧
    ∀ c, rest.head? = some c → t.takes c = false

/-- The digits behind a dollar sign spell a number. -/
theorem taken_ofDollar (h : (ofDollar rest).outcome = .ok t) :
    Taken ('$' :: rest) t (ofDollar rest).length := by
  simp only [ofDollar] at h ⊢
  split at h
  · cases h
  · next hne =>
    split at h
    · next hn =>
      obtain rfl := Except.ok.inj h
      refine ⟨'$' :: rest.takeWhile Char.isDigit, rest.dropWhile Char.isDigit, ?_, rfl,
        .index (by simpa using hne) (fun _ hd => List.mem_takeWhile_imp hd) hn,
        fun _ hc => of_head?_dropWhile hc⟩
      rw [List.cons_append, List.takeWhile_append_dropWhile]
    · cases h

/-- What stands between quotes spells its content. -/
theorem taken_ofQuoted {quote : Char} {token : String → Token} {unclosed : ReadError.Cause}
    (hspells : ∀ {body content}, Text.Encloses quote body content →
      (token (String.ofList content)).Spells (quote :: (body ++ [quote])))
    (htakes : ∀ s c, (token s).takes c = false)
    (h : (ofQuoted quote token unclosed rest).outcome = .ok t) :
    Taken (quote :: rest) t (ofQuoted quote token unclosed rest).length := by
  rw [ofQuoted] at h ⊢
  split at h
  · next body after hb =>
    obtain rfl := Except.ok.inj h
    refine ⟨quote :: (body ++ [quote]), after, ?_, ?_, hspells (.of_body? hb),
      fun c _ => htakes _ c⟩
    · rw [Text.eq_of_body?_eq_some hb]
      simp
    · simp
  · cases h

/-- **What is read as a token spells it**, and the rest does not go on with
it. -/
theorem taken_first {text : List Char} (h : (first text).outcome = .ok t) (ht : t ≠ .finish) :
    Taken text t (first text).length := by
  revert h
  fun_cases first text with
  | case1 => exact fun h => absurd (Except.ok.inj h).symm ht
  | case2 rest => exact taken_ofDollar
  | case3 rest => exact taken_ofQuoted .quotedName fun _ _ => rfl
  | case4 rest => exact taken_ofQuoted .text fun _ _ => rfl
  | case5 rest =>
    rintro ⟨⟩
    exact ⟨['('], rest, rfl, rfl, .opening, fun _ _ => rfl⟩
  | case6 rest =>
    rintro ⟨⟩
    exact ⟨[')'], rest, rfl, rfl, .closing, fun _ _ => rfl⟩
  | case7 rest =>
    rintro ⟨⟩
    exact ⟨['='], rest, rfl, rfl, .equal, fun _ _ => rfl⟩
  | case8 rest =>
    rintro ⟨⟩
    exact ⟨['<', '='], rest, rfl, rfl, .lessOrEqual, fun _ _ => rfl⟩
  | case9 rest =>
    rintro ⟨⟩
    exact ⟨['<', '>'], rest, rfl, rfl, .notEqual, fun _ _ => rfl⟩
  | case10 rest hequal hgreater =>
    rintro ⟨⟩
    refine ⟨['<'], rest, rfl, rfl, .less, fun c hc => ?_⟩
    obtain ⟨tail, rfl⟩ := List.head?_eq_some_iff.1 hc
    have h1 : c ≠ '=' := fun h => hequal tail (by rw [h])
    have h2 : c ≠ '>' := fun h => hgreater tail (by rw [h])
    simp [Token.takes, h1, h2]
  | case11 rest =>
    rintro ⟨⟩
    exact ⟨['>', '='], rest, rfl, rfl, .greaterOrEqual, fun _ _ => rfl⟩
  | case12 rest hequal =>
    rintro ⟨⟩
    refine ⟨['>'], rest, rfl, rfl, .greater, fun c hc => ?_⟩
    obtain ⟨tail, rfl⟩ := List.head?_eq_some_iff.1 hc
    have h1 : c ≠ '=' := fun h => hequal tail (by rw [h])
    simp [Token.takes, h1]
  | case14 c rest =>
    rintro ⟨⟩
    next hc =>
    refine ⟨c :: rest.takeWhile continuesName, rest.dropWhile continuesName, ?_, rfl,
      Token.spells_ofWord ⟨hc, fun _ hd => List.mem_takeWhile_imp hd⟩, fun d hd => ?_⟩
    · rw [List.cons_append, List.takeWhile_append_dropWhile]
    · rw [Token.takes_of_isWord (Token.isWord_ofWord _)]
      exact of_head?_dropWhile hd
  | case13 | case15 | case16 =>
    intro h
    cases h

end Lexeme

end Query

end RowQuery
