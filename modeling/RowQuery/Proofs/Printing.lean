import Mathlib
import RowQuery.Proofs.Pieces
/-!
# Writing trees

A tree is written token by token, with white space between them. The trees
that can be written are those of some query: their lists are not empty, bare
names are words and no keywords, and numbers are within bounds
(`Tree.WellFormed`). Reading undoes writing, and reads nothing but trees
that can be written (`read_text`).
-/

namespace RowQuery

namespace Query

/-! ## The tokens of a tree -/

/-- The token that writes a reference. -/
def Reference.token : Reference → Token
  | name s => .name s
  | quotedName s => .quotedName s
  | index n => .index n
  | position => .index 0

/-- The token that writes an operand. -/
def Operand.token : Operand → Token
  | text s => .text s
  | reference r => r.token

/-- The tokens of a comparison. -/
def Comparison.tokens (c : Comparison) : List Token :=
  [c.subject.token, .operator c.operator, c.operand.token]

mutual

/-- The tokens of a term. -/
def Term.tokens : Term → List Token
  | .comparison c => c.tokens
  | .negation t => .not :: t.tokens
  | .group alternatives => .opening :: queryTokens alternatives ++ [.closing]

/-- The tokens of terms that hold together. -/
def termTokens : List Term → List Token
  | [] => []
  | [t] => t.tokens
  | t :: rest => t.tokens ++ .and :: termTokens rest

/-- The tokens of alternatives. -/
def queryTokens : List (List Term) → List Token
  | [] => []
  | [terms] => termTokens terms
  | terms :: rest => termTokens terms ++ .or :: queryTokens rest

end

/-- The tokens of a tree. -/
def Tree.tokens (t : Tree) : List Token :=
  queryTokens t

/-! ## Trees that can be written -/

/-- A bare name can be written if it is one, and a number within bounds. -/
def Reference.WellFormed : Reference → Prop
  | name s => IsBareName s.toList
  | quotedName _ => True
  | index n => 1 ≤ n ∧ n < 2 ^ 64
  | position => True

/-- Any text can be written. -/
def Operand.WellFormed : Operand → Prop
  | text _ => True
  | reference r => r.WellFormed

/-- Both sides can be written. -/
def Comparison.WellFormed (c : Comparison) : Prop :=
  c.subject.WellFormed ∧ c.operand.WellFormed

mutual

/-- No list in a term is empty, and its comparisons can be written. -/
def Term.WellFormed : Term → Prop
  | .comparison c => c.WellFormed
  | .negation t => t.WellFormed
  | .group alternatives => alternatives ≠ [] ∧ AlternativesWellFormed alternatives

/-- So it is for each of the terms. -/
def TermsWellFormed : List Term → Prop
  | [] => True
  | t :: rest => t.WellFormed ∧ TermsWellFormed rest

/-- And for each of the alternatives, of which none is empty. -/
def AlternativesWellFormed : List (List Term) → Prop
  | [] => True
  | terms :: rest => terms ≠ [] ∧ TermsWellFormed terms ∧ AlternativesWellFormed rest

end

/-- **A tree that can be written.** -/
def Tree.WellFormed (t : Tree) : Prop :=
  t ≠ [] ∧ AlternativesWellFormed t

/-! ## The text of a tree -/

/-- The plainest spelling of a token: keywords in capitals, numbers without
zeros before them, and quoted content with the quote and the backslash
escaped. -/
def Token.write : Token → List Char
  | name s => s.toList
  | quotedName s => '"' :: (Text.escape '"' s.toList ++ ['"'])
  | index n => '$' :: (Text.decimal n).toList
  | text s => '\'' :: (Text.escape '\'' s.toList ++ ['\''])
  | operator op => op.symbol.toList
  | and => ['A', 'N', 'D']
  | or => ['O', 'R']
  | not => ['N', 'O', 'T']
  | opening => ['(']
  | closing => [')']
  | finish => []

/-- Tokens with white space between them: `gap n` stands before the last `n`
of them. -/
def spaced (gap : ℕ → List Char) : List Token → List Char
  | [] => []
  | [t] => t.write
  | t :: ts => t.write ++ (gap ts.length ++ spaced gap ts)

/-- The text of a tree, with the given white space between its tokens. -/
def Tree.text (gap : ℕ → List Char) (t : Tree) : String :=
  String.ofList (spaced gap t.tokens)

/-! ## Tokens that can be written -/

/-- Whether there is a way to write the token. -/
def Token.Writable : Token → Prop
  | name s => IsBareName s.toList
  | index n => n < 2 ^ 64
  | finish => False
  | _ => True

namespace Token

variable {t : Token} {word : List Char}

/-- What is spelled can be written. -/
theorem Spells.writable (h : t.Spells word) : t.Writable := by
  cases h with
  | name hw => rwa [Writable, String.toList_ofList]
  | keyword hk hw =>
    have hkeys : ∀ e ∈ keywords, e.2.Writable := by
      simp [keywords, Writable]
    exact hkeys _ hk
  | index _ _ hn => exact hn
  | _ => trivial

/-- **The plainest spelling is one.** -/
theorem Writable.spells (h : t.Writable) : t.Spells t.write := by
  cases t with
  | name s =>
    have hs := Spells.name h
    rwa [String.ofList_toList] at hs
  | quotedName s =>
    have hs := Spells.quotedName (.of_escape '"' s.toList)
    rwa [String.ofList_toList] at hs
  | index n => exact spells_index h 0
  | text s =>
    have hs := Spells.text (.of_escape '\'' s.toList)
    rwa [String.ofList_toList] at hs
  | operator op =>
    cases op with
    | equal => exact .equal
    | notEqual => exact .notEqual
    | less => exact .less
    | greater => exact .greater
    | lessOrEqual => exact .lessOrEqual
    | greaterOrEqual => exact .greaterOrEqual
    | like => exact .keyword (k := "LIKE") (by decide) (by decide)
    | ilike => exact .keyword (k := "ILIKE") (by decide) (by decide)
    | regex => exact .keyword (k := "REGEX") (by decide) (by decide)
  | and => exact .keyword (k := "AND") (by decide) (by decide)
  | or => exact .keyword (k := "OR") (by decide) (by decide)
  | not => exact .keyword (k := "NOT") (by decide) (by decide)
  | opening => exact .opening
  | closing => exact .closing
  | finish => exact h.elim

end Token

/-- **Tokens with white space between them are a row.** -/
theorem isRow_spaced {gap : ℕ → List Char} (hgap : ∀ n, gap n ≠ [] ∧ Blank (gap n))
    {ts : List Token} (hts : ∀ t ∈ ts, t.Writable) (hne : ts ≠ []) : IsRow (spaced gap ts) ts := by
  induction ts with
  | nil => exact absurd rfl hne
  | cons t ts ih =>
    have ht : IsRow t.write [t] := .of_spells (hts t List.mem_cons_self).spells
    cases ts with
    | nil => exact ht
    | cons u us =>
      have hrest := ih (fun t ht => hts t (List.mem_cons_of_mem _ ht)) (List.cons_ne_nil u us)
      exact ht.append hrest (hgap (u :: us).length).2 fun hnil => absurd hnil (hgap _).1

/-! ## Trees and their tokens -/

/-- A reference that can be written is written by its token. -/
theorem Reference.WellFormed.written {x : Reference} (h : x.WellFormed) :
    x.Written x.token ∧ x.token.Writable := by
  cases x with
  | name s => exact ⟨.name, h⟩
  | quotedName s => exact ⟨.quotedName, trivial⟩
  | index n => exact ⟨.index h.1, h.2⟩
  | position => exact ⟨.position, Nat.two_pow_pos 64⟩

theorem Operand.WellFormed.written {y : Operand} (h : y.WellFormed) :
    y.Written y.token ∧ y.token.Writable := by
  cases y with
  | text s => exact ⟨.text, trivial⟩
  | reference x =>
    obtain ⟨hx, hw⟩ := Reference.WellFormed.written h
    exact ⟨.reference hx, hw⟩

/-- A token that writes a reference and can be written itself makes a
reference that can. -/
theorem Reference.Written.wellFormed {x : Reference} {t : Token} (h : x.Written t)
    (ht : t.Writable) : x.WellFormed := by
  cases h with
  | name => exact ht
  | quotedName => trivial
  | position => trivial
  | index hn => exact ⟨hn, ht⟩

theorem Operand.Written.wellFormed {y : Operand} {t : Token} (h : y.Written t)
    (ht : t.Writable) : y.WellFormed := by
  cases h with
  | text => trivial
  | reference hx => exact hx.wellFormed ht

/-- What is written of a phrase: tokens that derive it and can be written
themselves. -/
def WrittenBy (ts : List Token) (p : Phrase) : Prop :=
  Derives ts p ∧ ∀ t ∈ ts, t.Writable

/-- The tokens of a comparison that can be written derive it. -/
theorem Comparison.WellFormed.writtenBy {c : Comparison} (h : c.WellFormed) :
    WrittenBy c.tokens (.term (.comparison c)) := by
  obtain ⟨hx, htx⟩ := h.1.written
  obtain ⟨hy, hty⟩ := h.2.written
  refine ⟨.comparison hx hy, ?_⟩
  simp only [Comparison.tokens, List.mem_cons, List.not_mem_nil, or_false]
  rintro t (rfl | rfl | rfl)
  · exact htx
  · trivial
  · exact hty

mutual

/-- **The tokens of a term that can be written derive it.** The induction is
on the term, through the lists of a group. -/
theorem Term.writtenBy (t : Term) (h : t.WellFormed) : WrittenBy t.tokens (.term t) :=
  match t with
  | .comparison c => Comparison.WellFormed.writtenBy h
  | .negation t => by
    obtain ⟨hd, hw⟩ := Term.writtenBy t h
    exact ⟨.not hd, List.forall_mem_cons.2 ⟨trivial, hw⟩⟩
  | .group alternatives => by
    obtain ⟨hd, hw⟩ := writtenBy_queryTokens alternatives h.2 h.1
    refine ⟨.group hd, ?_⟩
    rw [Term.tokens, List.forall_mem_append, List.forall_mem_cons]
    exact ⟨⟨trivial, hw⟩, List.forall_mem_singleton.2 trivial⟩

/-- So do those of terms that hold together. -/
theorem writtenBy_termTokens (terms : List Term) (h : TermsWellFormed terms) (hne : terms ≠ []) :
    WrittenBy (termTokens terms) (.terms terms) :=
  match terms with
  | [] => absurd rfl hne
  | [t] => by
    obtain ⟨hd, hw⟩ := Term.writtenBy t h.1
    exact ⟨.single hd, hw⟩
  | t :: u :: rest => by
    obtain ⟨hd, hw⟩ := Term.writtenBy t h.1
    obtain ⟨hds, hws⟩ := writtenBy_termTokens (u :: rest) h.2 (List.cons_ne_nil u rest)
    exact ⟨.and hd hds, List.forall_mem_append.2 ⟨hw, List.forall_mem_cons.2 ⟨trivial, hws⟩⟩⟩

/-- And those of alternatives. -/
theorem writtenBy_queryTokens (alternatives : List (List Term))
    (h : AlternativesWellFormed alternatives) (hne : alternatives ≠ []) :
    WrittenBy (queryTokens alternatives) (.query alternatives) :=
  match alternatives with
  | [] => absurd rfl hne
  | [terms] => by
    obtain ⟨hd, hw⟩ := writtenBy_termTokens terms h.2.1 h.1
    exact ⟨.alternative hd, hw⟩
  | terms :: more :: rest => by
    obtain ⟨hd, hw⟩ := writtenBy_termTokens terms h.2.1 h.1
    obtain ⟨hds, hws⟩ := writtenBy_queryTokens (more :: rest) h.2.2 (List.cons_ne_nil more rest)
    exact ⟨.or hd hds, List.forall_mem_append.2 ⟨hw, List.forall_mem_cons.2 ⟨trivial, hws⟩⟩⟩

end

/-- What a phrase needs so that it can be written. -/
def Phrase.WellFormed : Phrase → Prop
  | .query q => q.WellFormed
  | .terms c => c ≠ [] ∧ TermsWellFormed c
  | .term t => t.WellFormed

/-- **What derives from tokens that can be written can be written.** -/
theorem Derives.wellFormed {ts : List Token} {p : Phrase} (h : Derives ts p)
    (hts : ∀ t ∈ ts, t.Writable) : p.WellFormed := by
  induction h with
  | alternative _ ih =>
    obtain ⟨hne, hc⟩ := ih hts
    exact ⟨by simp, hne, hc, trivial⟩
  | or _ _ ihc ihq =>
    rw [List.forall_mem_append, List.forall_mem_cons] at hts
    obtain ⟨hne, hc⟩ := ihc hts.1
    exact ⟨by simp, hne, hc, (ihq hts.2.2).2⟩
  | single _ ih => exact ⟨by simp, ih hts, trivial⟩
  | and _ _ iht ihc =>
    rw [List.forall_mem_append, List.forall_mem_cons] at hts
    exact ⟨by simp, iht hts.1, (ihc hts.2.2).2⟩
  | not _ ih => exact ih (List.forall_mem_cons.1 hts).2
  | group _ ih =>
    rw [List.forall_mem_append, List.forall_mem_cons] at hts
    exact ih hts.1.2
  | comparison hx hy =>
    simp only [List.forall_mem_cons] at hts
    exact ⟨hx.wellFormed hts.1, hy.wellFormed hts.2.2.1⟩

/-- **Reading undoes writing**, whatever white space the tokens of the tree
have between them, and reads nothing but trees that can be written. -/
theorem read_text (T : Tree) :
    (T.WellFormed → ∀ gap : ℕ → List Char, (∀ n, gap n ≠ [] ∧ Blank (gap n)) →
      read (T.text gap) = .ok T) ∧
    ∀ q, read q = .ok T → T.WellFormed := by
  constructor
  · intro hT gap hgap
    obtain ⟨hd, hw⟩ := writtenBy_queryTokens T hT.2 hT.1
    refine read_iff_isRow.2 ⟨T.tokens, ?_, hd⟩
    rw [Tree.text, String.toList_ofList]
    exact isRow_spaced hgap hw hd.ne_nil
  · intro q hq
    -- what was read is spelled in the text, so its tokens can be written
    obtain ⟨ts, hrow, hd⟩ := read_iff_isRow.1 hq
    refine hd.wellFormed fun t ht => ?_
    obtain ⟨word, hword⟩ := hrow.exists_spells t ht
    exact hword.writable

/-- How a tree is written. -/
example :
    Tree.text (fun _ => [' '])
        [[.negation (.group [[.comparison ⟨.name "a", .like, .text "it's"⟩]])]] =
      "NOT ( a LIKE 'it\\'s' )" := by
  cbv

end Query

end RowQuery
