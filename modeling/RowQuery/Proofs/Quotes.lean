import RowQuery.Proofs.Progress
/-!
# Closing quotes

A backslash takes the character behind it, so of a run of backslashes every
second one is taken by the one before it. What stands behind the run is free
if their number is even. A quote closes a quoted text if it is the first that
is free (`Text.encloses_iff`); a scanner that is at an opening quote finds
that place, or takes the rest of the text where there is none
(`Scanner.quoted_exact`).
-/

namespace RowQuery

namespace Text

variable {quote c : Char} {s t body content text after : List Char}

/-- The number of backslashes that a text ends with. -/
def backslashes (cs : List Char) : ℕ :=
  (cs.rtakeWhile (· = '\\')).length

theorem backslashes_concat (cs : List Char) (c : Char) :
    backslashes (cs ++ [c]) = if c = '\\' then backslashes cs + 1 else 0 := by
  by_cases hc : c = '\\' <;> simp [backslashes, hc]

/-- A text that ends in another character ends with none of them. -/
theorem even_backslashes (h : text.getLast? ≠ some '\\') : Even (backslashes text) := by
  induction text using List.reverseRecOn with
  | nil => exact .zero
  | append_singleton cs c =>
    rw [List.getLast?_concat, ne_eq, Option.some.injEq] at h
    rw [backslashes_concat, if_neg h]
    exact .zero

/-- **Behind backslashes in pairs a text is as if by itself.** The induction is
on its characters from the last one on. -/
theorem even_backslashes_append (hs : Even (backslashes s)) :
    Even (backslashes (s ++ t)) ↔ Even (backslashes t) := by
  induction t using List.reverseRecOn with
  | nil =>
    rw [List.append_nil]
    exact iff_of_true hs .zero
  | append_singleton t c ih =>
    rw [← List.append_assoc, backslashes_concat, backslashes_concat]
    split
    · rw [Nat.even_add_one, Nat.even_add_one, ih]
    · rfl

/-- **A text that the next quote closes**: the quote behind it is free, and
none of those in it is. -/
structure IsBody (quote : Char) (body : List Char) : Prop where
  /-- The backslashes at the end go in pairs. -/
  even : Even (backslashes body)
  /-- Those before a quote leave one over. -/
  odd : ∀ u w, body = u ++ quote :: w → ¬ Even (backslashes u)

namespace IsBody

/-- A text without the quote, unless a backslash ends it. -/
theorem of_notMem (hquote : quote ∉ body) (hlast : body.getLast? ≠ some '\\') :
    IsBody quote body := by
  refine ⟨even_backslashes hlast, fun u w heq => absurd ?_ hquote⟩
  exact heq ▸ List.mem_append_right u List.mem_cons_self

theorem nil : IsBody quote [] :=
  of_notMem List.not_mem_nil (by simp)

/-- A character that is neither the quote nor a backslash. -/
theorem plain (hc : c ≠ quote) (hb : c ≠ '\\') : IsBody quote [c] :=
  of_notMem (by simpa using hc.symm) (by simpa using hb)

/-- A backslash with the character that it takes. -/
theorem pair (hq : quote ≠ '\\') (c : Char) : IsBody quote ['\\', c] := by
  refine ⟨?_, fun u w heq => ?_⟩
  · by_cases hc : c = '\\'
    · subst hc
      decide
    · exact even_backslashes (by simpa using hc)
  · rcases List.cons_eq_append_iff.1 heq with ⟨-, hhead⟩ | ⟨u, rfl, htail⟩
    · exact absurd (List.cons.inj hhead).1 hq
    · obtain ⟨rfl, -⟩ : u = [] ∧ _ := by simpa [List.cons_eq_append_iff] using htail
      decide

end IsBody

/-- **Bodies can be put together**, and what stands behind one can be told by
itself. -/
theorem isBody_append (hs : IsBody quote s) : IsBody quote (s ++ t) ↔ IsBody quote t := by
  constructor
  · intro h
    refine ⟨(even_backslashes_append hs.even).1 h.even, fun u w ht => ?_⟩
    rw [← even_backslashes_append hs.even]
    exact h.odd (s ++ u) w (by rw [ht, List.append_assoc])
  · intro ht
    refine ⟨(even_backslashes_append hs.even).2 ht.even, fun u w heq => ?_⟩
    rcases List.append_eq_append_iff.1 heq with ⟨v, rfl, hv⟩ | ⟨v, hv, hvt⟩
    · -- the quote is in the second part
      rw [even_backslashes_append hs.even]
      exact ht.odd v w hv
    · cases v with
      | nil => exact absurd .zero (ht.odd [] w hvt.symm)
      | cons d v =>
        -- the quote is in the first one
        obtain ⟨rfl, -⟩ := List.cons.inj hvt
        exact hs.odd u v hv

/-- What is written between two quotes, is closed by the second. -/
theorem Encloses.isBody (h : Encloses quote body content) (hq : quote ≠ '\\') :
    IsBody quote body := by
  induction h with
  | nil => exact .nil
  | plain hc hb _ ih => exact (isBody_append (.plain hc hb)).2 ih
  | escaped _ _ ih | kept _ _ _ ih => exact (isBody_append (.pair hq _)).2 ih

/-- And what is closed by a quote, is written so. -/
theorem IsBody.encloses (h : IsBody quote body) (hq : quote ≠ '\\') :
    Encloses quote body (unescape quote body) := by
  fun_induction unescape quote body with
  | case1 d rest hd ih => exact .escaped hd (ih ((isBody_append (.pair hq d)).1 h))
  | case2 d rest hd ih =>
    exact .kept (fun hc => hd (.inl hc)) (fun hc => hd (.inr hc))
      (ih ((isBody_append (.pair hq d)).1 h))
  | case3 c rest hpair ih =>
    have hc : c ≠ quote := fun hc => h.odd [] rest (by rw [hc]; rfl) .zero
    have hb : c ≠ '\\' := by
      rintro rfl
      -- a backslash without a character to take would be the last one
      cases rest with
      | nil => exact absurd h.even (by decide)
      | cons d rest => exact hpair d rest rfl rfl
    exact .plain hc hb (ih ((isBody_append (.plain hc hb)).1 h))
  | case4 => exact .nil

/-- **The texts between quotes are those that the next quote closes**, and each
has one content. -/
theorem encloses_iff (hq : quote ≠ '\\') :
    Encloses quote body content ↔ IsBody quote body ∧ content = unescape quote body := by
  constructor
  · intro h
    exact ⟨h.isBody hq, h.unescape_eq.symm⟩
  · rintro ⟨h, rfl⟩
    exact h.encloses hq

/-- **What has nothing to resolve stands for itself**: a body without the quote
and without two backslashes together. -/
theorem Encloses.content_eq (h : Encloses quote body content) (hquote : quote ∉ body)
    (hpair : ¬ ['\\', '\\'] <:+: body) : content = body := by
  induction h with
  | nil => rfl
  | plain _ _ _ ih =>
    rw [List.mem_cons, not_or] at hquote
    rw [ih hquote.2 fun hin => hpair (List.infix_cons hin)]
  | @escaped c body _ hc _ _ =>
    rcases hc with rfl | rfl
    · simp at hquote
    · exact absurd (List.prefix_append ['\\', '\\'] body).isInfix hpair
  | kept _ _ _ ih =>
    rw [List.mem_cons, List.mem_cons, not_or, not_or] at hquote
    rw [ih hquote.2.2 fun hin => hpair (List.infix_cons (List.infix_cons hin))]

/-- **The body that is found is the one that the quote behind it closes.** -/
theorem body?_eq_some_iff (hq : quote ≠ '\\') :
    body? quote text = some (body, after) ↔
      text = body ++ quote :: after ∧ IsBody quote body := by
  constructor
  · intro h
    exact ⟨eq_of_body?_eq_some h, (Encloses.of_body? h).isBody hq⟩
  · rintro ⟨rfl, h⟩
    exact (h.encloses hq).body?_eq hq after

end Text

namespace Query

/-- **The two kinds of quoted tokens**: the quote, what messages call the kind,
the token of a content, and why there is none. -/
inductive Quoted : Char → String → (String → Token) → ReadError.Cause → Prop
  /-- A column name. -/
  | name : Quoted '"' "quoted identifier" .quotedName .unclosedName
  /-- A text. -/
  | text : Quoted '\'' "string" .text .unclosedText

/-- **A place at which a quoted text can end** that begins at another one: the
quote stands there, behind backslashes in pairs. -/
structure Closes (q : String) (quote : Char) (a b : ℕ) : Prop where
  /-- It is behind the opening quote. -/
  lt : a < b
  /-- It has the quote. -/
  quote : q.toList[b]? = some quote
  /-- The body ends with backslashes in pairs. -/
  even : Even (Text.backslashes (q.toList.extract (a + 1) b))

variable {q kind : String} {quote : Char} {token : String → Token} {unclosed : ReadError.Cause}
  {a b : ℕ} {u w body rest : List Char}

instance : Decidable (Closes q quote a b) :=
  decidable_of_iff (a < b ∧ q.toList[b]? = some quote ∧
      Even (Text.backslashes (q.toList.extract (a + 1) b)))
    ⟨fun ⟨hlt, hquote, heven⟩ => ⟨hlt, hquote, heven⟩, fun h => ⟨h.lt, h.quote, h.even⟩⟩

/-! ## Places as parts of the text -/

/-- The place is behind the body. -/
theorem Closes.add_length (h : Closes q quote a b) :
    a + 1 + (q.toList.extract (a + 1) b).length = b := by
  have hlt := h.lt
  have hb := (List.getElem?_eq_some_iff.1 h.quote).1
  rw [List.extract, List.length_take, List.length_drop]
  omega

/-- The body and what is behind the quote, as the parts of the text. -/
theorem Closes.drop_eq (h : Closes q quote a b) :
    q.toList.drop (a + 1) = q.toList.extract (a + 1) b ++ quote :: q.toList.drop (b + 1) := by
  obtain ⟨hb, hquote⟩ := List.getElem?_eq_some_iff.1 h.quote
  have hdrop : q.toList.drop b = quote :: q.toList.drop (b + 1) := by
    rw [List.drop_eq_getElem_cons hb, hquote]
  have hlt := h.lt
  have hsum : a + 1 + (b - (a + 1)) = b := by omega
  calc q.toList.drop (a + 1)
    _ = q.toList.extract (a + 1) b ++ (q.toList.drop (a + 1)).drop (b - (a + 1)) :=
      (List.take_append_drop _ _).symm
    _ = q.toList.extract (a + 1) b ++ quote :: q.toList.drop (b + 1) := by
      rw [List.drop_drop, hsum, hdrop]

/-- Such parts are at such a place. -/
theorem extract_of_drop_eq (h : q.toList.drop (a + 1) = u ++ quote :: w) :
    q.toList.extract (a + 1) (a + 1 + u.length) = u := by
  rw [List.extract, h, Nat.add_sub_cancel_left, List.take_left]

theorem closes_of_drop_eq (h : q.toList.drop (a + 1) = u ++ quote :: w)
    (hu : Even (Text.backslashes u)) : Closes q quote a (a + 1 + u.length) := by
  refine ⟨by omega, ?_, by rwa [extract_of_drop_eq h]⟩
  rw [← List.getElem?_drop, h, List.getElem?_append_right le_rfl, Nat.sub_self]
  rfl

/-- **The first place has a body before it.** -/
theorem isBody_of_isLeast (h : IsLeast {b | Closes q quote a b} b) :
    Text.IsBody quote (q.toList.extract (a + 1) b) := by
  refine ⟨h.1.even, fun u w hbody hu => ?_⟩
  have hdrop := h.1.drop_eq
  rw [hbody, List.append_assoc, List.cons_append] at hdrop
  -- the quote in the body would be an earlier place
  have hle : b ≤ a + 1 + u.length := h.2 (closes_of_drop_eq hdrop hu)
  have hlen := h.1.add_length
  rw [hbody, List.length_append, List.length_cons] at hlen
  omega

/-! ## Reading between quotes -/

namespace Quoted

variable (hk : Quoted quote kind token unclosed)
include hk

theorem ne_backslash : quote ≠ '\\' := by
  cases hk <;> decide

/-- What is said of a quote that is not closed. -/
theorem describe_unclosed :
    unclosed.describe = "Unterminated " ++ kind ++ ": missing closing " ++ quote.toString := by
  cases hk <;> decide

theorem message_unclosed (a : ℕ) :
    (ReadError.mk a unclosed).message = "Syntax error at position " ++ Text.decimal a ++ ": " ++
      ("Unterminated " ++ kind ++ ": missing closing " ++ quote.toString) := by
  rw [← hk.describe_unclosed]
  rfl

/-- The quote decides how a text is read that begins with it. -/
theorem first_eq (rest : List Char) :
    Lexeme.first (quote :: rest) = Lexeme.ofQuoted quote token unclosed rest := by
  cases hk <;> rfl

end Quoted

namespace Scanner

variable {s : Scanner}

/-- What is behind white space and where it begins, is all that the next answer
depends on. -/
theorem next_eq {text : List Char} (htext : s.rest.dropWhile Unicode.isWhiteSpace = text)
    (ha : s.next.2.start = a) :
    s.next = ((Lexeme.first text).outcome.mapError (⟨a, ·⟩),
      ⟨text.drop (Lexeme.first text).length, a + (Lexeme.first text).length, a⟩) := by
  subst htext
  subst ha
  rfl

/-- At a character the scanner has it and the text behind it. -/
theorem Over.dropWhile_cons (h : Over q s) (ha : s.next.2.start = a)
    (hquote : q.toList[a]? = some quote) :
    s.rest.dropWhile Unicode.isWhiteSpace = quote :: q.toList.drop (a + 1) := by
  obtain ⟨hlt, hget⟩ := List.getElem?_eq_some_iff.1 hquote
  rw [h.dropWhile_eq, ha, List.drop_eq_getElem_cons hlt, hget]

/-- **A quoted text is read to the quote behind its body.** -/
theorem Over.next_of_isBody (h : Over q s) (hk : Quoted quote kind token unclosed)
    (ha : s.next.2.start = a) (hquote : q.toList[a]? = some quote)
    (hdrop : q.toList.drop (a + 1) = body ++ quote :: rest) (hbody : Text.IsBody quote body) :
    s.next = (.ok (token (String.ofList (Text.unescape quote body))),
      ⟨rest, a + body.length + 2, a⟩) := by
  have hfound := (Text.body?_eq_some_iff hk.ne_backslash).2 ⟨hdrop, hbody⟩
  have hfirst : Lexeme.first (quote :: q.toList.drop (a + 1)) =
      ⟨.ok (token (String.ofList (Text.unescape quote body))), body.length + 2⟩ := by
    rw [hk.first_eq, Lexeme.ofQuoted, hfound]
  have hrest : (quote :: q.toList.drop (a + 1)).drop (body.length + 2) = rest := by
    rw [List.drop_succ_cons, hdrop, ← List.drop_drop, List.drop_left, List.drop_one, List.tail_cons]
  rw [next_eq (h.dropWhile_cons ha hquote) ha, hfirst, hrest]
  rfl

/-- **Without such a quote the scanner comes to the end of the text.** -/
theorem Over.next_of_not_closes (h : Over q s) (hk : Quoted quote kind token unclosed)
    (ha : s.next.2.start = a) (hquote : q.toList[a]? = some quote)
    (hnone : ∀ b, ¬ Closes q quote a b) :
    s.next = (.error ⟨a, unclosed⟩, ⟨[], q.length, a⟩) := by
  have hbody : Text.body? quote (q.toList.drop (a + 1)) = none := by
    by_contra hsome
    obtain ⟨⟨body, rest⟩, hfound⟩ := Option.ne_none_iff_exists'.1 hsome
    obtain ⟨hdrop, hbody⟩ := (Text.body?_eq_some_iff hk.ne_backslash).1 hfound
    exact hnone _ (closes_of_drop_eq hdrop hbody.even)
  have hlt : a < q.length := by
    rw [← String.length_toList]
    exact (List.getElem?_eq_some_iff.1 hquote).1
  have hlen : (q.toList.drop (a + 1)).length + 1 = q.length - a := by
    rw [List.length_drop, String.length_toList]
    omega
  have hfirst : Lexeme.first (quote :: q.toList.drop (a + 1)) =
      ⟨.error unclosed, q.length - a⟩ := by
    rw [hk.first_eq, Lexeme.ofQuoted, hbody, hlen]
  have hrest : (quote :: q.toList.drop (a + 1)).drop (q.length - a) = [] := by
    rw [← hlen, ← List.length_cons, List.drop_length]
  rw [next_eq (h.dropWhile_cons ha hquote) ha, hfirst, hrest, Nat.add_sub_cancel' hlt.le]
  rfl

/-- **A quoted text ends at the first quote that is free, and is read exactly.**
Take a place in a text where a token starts, and let it have a quote. If the
same quote stands farther on behind backslashes in pairs, those of the body
alone counted, then the token ends at the first such place. Its content is the
one that the body encloses: a quote and a backslash have lost the backslash
before them, and before any other character it was kept. If there is no such
place, the quote is reported as one that is not closed, and the scanner is left
at the end of the text. So a body without the quote and without two backslashes
together is the content as it stands, if no backslash ends it. -/
theorem quoted_exact (h : Over q s) (hk : Quoted quote kind token unclosed)
    (ha : s.next.2.start = a) (hquote : q.toList[a]? = some quote) :
    (∀ b, IsLeast {b | Closes q quote a b} b →
      ∃ content, s.next = (.ok (token (String.ofList content)), ⟨q.toList.drop (b + 1), b + 1, a⟩) ∧
        ∀ other, Text.Encloses quote (q.toList.extract (a + 1) b) other ↔ other = content) ∧
    ((∀ b, ¬ Closes q quote a b) →
      s.next = (.error ⟨a, unclosed⟩, ⟨[], q.length, a⟩) ∧
        (ReadError.mk a unclosed).message = "Syntax error at position " ++ Text.decimal a ++ ": " ++
          ("Unterminated " ++ kind ++ ": missing closing " ++ quote.toString)) ∧
    ∀ body rest, q.toList.drop (a + 1) = body ++ quote :: rest → quote ∉ body →
      ¬ ['\\', '\\'] <:+: body → body.getLast? ≠ some '\\' →
      s.next = (.ok (token (String.ofList body)), ⟨rest, a + body.length + 2, a⟩) := by
  have hq := hk.ne_backslash
  refine ⟨fun b hb => ?_, fun hnone => ?_, fun body rest hdrop hmem hpair hlast => ?_⟩
  · have hbody := isBody_of_isLeast hb
    have hnext := h.next_of_isBody hk ha hquote hb.1.drop_eq hbody
    have hend : a + (q.toList.extract (a + 1) b).length + 2 = b + 1 := by
      have hlen := hb.1.add_length
      omega
    rw [hend] at hnext
    refine ⟨_, hnext, fun other => ?_⟩
    rw [Text.encloses_iff hq, and_iff_right hbody]
  · exact ⟨h.next_of_not_closes hk ha hquote hnone, hk.message_unclosed a⟩
  · have hbody := Text.IsBody.of_notMem hmem hlast
    have hsame := (hbody.encloses hq).content_eq hmem hpair
    rw [h.next_of_isBody hk ha hquote hdrop hbody, hsame]

/-- A taken quote does not close a text, and a quote behind two backslashes
does. At the end of the second token one backslash takes the quote, so it is not
closed. -/
theorem quoted_exact_escaped :
    Over "'it\\'s\\\\' \"a\\\"" (ofText "'it\\'s\\\\' \"a\\\"") ∧
      IsLeast {b | Closes "'it\\'s\\\\' \"a\\\"" '\'' 0 b} 8 ∧
      (∀ b, ¬ Closes "'it\\'s\\\\' \"a\\\"" '"' 10 b) ∧
      (ofText "'it\\'s\\\\' \"a\\\"").next =
        (.ok (.text "it's\\"), ⟨[' ', '"', 'a', '\\', '"'], 9, 0⟩) ∧
      ((ofText "'it\\'s\\\\' \"a\\\"").later 1).next =
        (.error ⟨10, .unclosedName⟩, ⟨[], 14, 10⟩) := by
  have hover := over_ofText "'it\\'s\\\\' \"a\\\""
  have hleast : IsLeast {b | Closes "'it\\'s\\\\' \"a\\\"" '\'' 0 b} 8 := by
    have hbefore : ∀ b < 8, ¬ Closes "'it\\'s\\\\' \"a\\\"" '\'' 0 b := by decide +kernel
    refine ⟨by decide +kernel, fun b hb => ?_⟩
    by_contra hlt
    exact hbefore b (Nat.lt_of_not_le hlt) hb
  have hnone : ∀ b, ¬ Closes "'it\\'s\\\\' \"a\\\"" '"' 10 b := by
    have hbefore : ∀ b < 14, ¬ Closes "'it\\'s\\\\' \"a\\\"" '"' 10 b := by decide +kernel
    intro b hb
    exact hbefore b (List.getElem?_eq_some_iff.1 hb.quote).1 hb
  refine ⟨hover, hleast, hnone, ?_, ?_⟩
  · obtain ⟨content, hnext, hcontent⟩ :=
      (quoted_exact hover .text (by decide +kernel) (by decide +kernel)).1 8 hleast
    obtain rfl := (hcontent _).1 (Text.Encloses.of_escape '\'' "it's\\".toList)
    exact hnext
  · exact ((quoted_exact (hover.later 1) .name (by decide +kernel) (by decide +kernel)).2.1 hnone).1

end Scanner

end Query

end RowQuery
