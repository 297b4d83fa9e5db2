import Mathlib
import RowQuery.Selection
import RowQuery.Proofs.Pieces
import RowQuery.Proofs.Truth
/-!
# Queries made of queries

Two texts that are queries can be joined to a third by writing AND, OR or
NOT around them, in parentheses or, for OR, without. Nothing in a part can
reach beyond it, since a part is a row of pieces and stays one; the tree of
the whole is made of the trees of the parts, and what the whole selects is
what the connective makes of what they select (`select_joined`).
-/

namespace RowQuery

namespace Query

/-! ## Joining texts -/

namespace Token

/-- Nothing runs into a closing parenthesis. -/
theorem not_runsInto_closing (t : Token) : ¬ t.RunsInto .closing := by
  cases t with
  | operator op => cases op <;> simp [RunsInto, isWord]
  | _ => simp [RunsInto, isWord]

theorem not_opening_runsInto (u : Token) : ¬ opening.RunsInto u := by
  simp [RunsInto, isWord]

end Token

/-- A text that is a phrase. -/
def IsPhrase (text : List Char) (p : Phrase) : Prop :=
  ∃ ts, IsRow text ts ∧ Derives ts p

namespace IsPhrase

variable {text text' : List Char} {T T' : Tree} {t : Term} {c d : Conjunction}

/-- A phrase is joined to what follows by a word between blanks. -/
theorem isRow_joined {ts us : List Token} {k : Token} {word : List Char} (h : IsRow text ts)
    (hk : k.Spells word) (h' : IsRow text' us) :
    IsRow (text ++ ([' '] ++ (word ++ ([' '] ++ text')))) (ts ++ k :: us) := by
  have hword : IsRow (word ++ ([' '] ++ text')) ([k] ++ us) :=
    (IsRow.of_spells hk).append h' blank_space nofun
  exact h.append hword blank_space nofun

/-- A query in parentheses is a term. -/
theorem group (h : IsPhrase text (.query T)) :
    IsPhrase ('(' :: (text ++ [')'])) (.term (.group T)) := by
  obtain ⟨ts, hrow, hd⟩ := h
  refine ⟨.opening :: ts ++ [.closing], ?_, .group hd⟩
  have hopened : IsRow ('(' :: text) (.opening :: ts) :=
    (IsRow.of_spells .opening).append hrow blank_nil fun _ t ht u _ => by
      obtain rfl : Token.opening = t := by simpa using ht
      exact Token.not_opening_runsInto u
  exact hopened.append (IsRow.of_spells .closing) blank_nil fun _ t _ u hu => by
    obtain rfl : Token.closing = u := by simpa using hu
    exact t.not_runsInto_closing

theorem query (h : IsPhrase text (.terms c)) : IsPhrase text (.query [c]) := by
  obtain ⟨ts, hrow, hd⟩ := h
  exact ⟨ts, hrow, .alternative hd⟩

theorem terms (h : IsPhrase text (.term t)) : IsPhrase text (.terms [t]) := by
  obtain ⟨ts, hrow, hd⟩ := h
  exact ⟨ts, hrow, .single hd⟩

/-- Terms and more of them. -/
theorem and_append (h : IsPhrase text (.terms c)) (h' : IsPhrase text' (.terms d)) :
    IsPhrase (text ++ ([' '] ++ (['A', 'N', 'D'] ++ ([' '] ++ text')))) (.terms (c ++ d)) := by
  obtain ⟨ts, hrow, hd⟩ := h
  obtain ⟨us, hrow', hd'⟩ := h'
  have hword : Token.and.Spells ['A', 'N', 'D'] := .keyword (k := "AND") (by decide) (by decide)
  exact ⟨_, isRow_joined hrow hword hrow', hd.and_append hd'⟩

/-- Of which the first may be alone. -/
theorem and (h : IsPhrase text (.term t)) (h' : IsPhrase text' (.terms c)) :
    IsPhrase (text ++ ([' '] ++ (['A', 'N', 'D'] ++ ([' '] ++ text')))) (.terms (t :: c)) :=
  h.terms.and_append h'

/-- Alternatives and more of them. -/
theorem or (h : IsPhrase text (.query T)) (h' : IsPhrase text' (.query T')) :
    IsPhrase (text ++ ([' '] ++ (['O', 'R'] ++ ([' '] ++ text')))) (.query (T ++ T')) := by
  obtain ⟨ts, hrow, hd⟩ := h
  obtain ⟨us, hrow', hd'⟩ := h'
  have hword : Token.or.Spells ['O', 'R'] := .keyword (k := "OR") (by decide) (by decide)
  exact ⟨_, isRow_joined hrow hword hrow', hd.or_append hd'⟩

/-- The negation of a term. -/
theorem not (h : IsPhrase text (.term t)) :
    IsPhrase (['N', 'O', 'T'] ++ ([' '] ++ text)) (.term (.negation t)) := by
  obtain ⟨ts, hrow, hd⟩ := h
  have hword : Token.not.Spells ['N', 'O', 'T'] := .keyword (k := "NOT") (by decide) (by decide)
  exact ⟨_, (IsRow.of_spells hword).append hrow blank_space nofun, .not hd⟩

end IsPhrase

/-! ## Predicates of joined trees -/

section Predicates

variable {h : Header} (T₁ T₂ : Tree)

/-- The predicate of two that are joined by a connective. -/
def joinedBy (connective : Bool → Bool → Bool) (p₁ p₂ : Predicate) : Predicate :=
  fun row ordinal => connective (p₁ row ordinal) (p₂ row ordinal)

/-- Alternatives can be tested in two parts. -/
theorem anyOf_append (ps qs : List Predicate) :
    anyOf (ps ++ qs) = joinedBy (· || ·) (anyOf ps) (anyOf qs) := by
  funext row ordinal
  rw [joinedBy, Bool.eq_iff_iff, Bool.or_eq_true]
  simp only [anyOf_eq_true, List.mem_append, or_and_right, exists_or]

variable [Pattern.Engine]

theorem predicates_append (s t : List (List Term)) :
    predicates h (s ++ t) =
      (predicates h s).bind fun ps => (predicates h t).map (ps ++ ·) := by
  induction s with
  | nil => cases ht : predicates h t <;> simp [predicates, ht, Except.bind, Except.map]
  | cons terms s ih =>
    rw [List.cons_append, predicates_cons, predicates_cons, ih]
    cases termPredicates h terms <;> cases predicates h s <;> cases predicates h t <;> rfl

/-- Alternatives behind others. -/
theorem predicate_append :
    Tree.predicate h (T₁ ++ T₂) =
      (T₁.predicate h).bind fun p₁ => (T₂.predicate h).map (joinedBy (· || ·) p₁) := by
  rw [Tree.predicate, Tree.predicate, Tree.predicate, predicates_append]
  cases predicates h T₁ with
  | error e => rfl
  | ok ps =>
    cases predicates h T₂ with
    | error e => rfl
    | ok qs => simp [Except.bind, Except.map, anyOf_append]

/-- A term alone has its own predicate. -/
theorem predicate_term (t : Term) : Tree.predicate h [[t]] = t.predicate h := by
  rw [Tree.predicate, predicates_cons, termPredicates_cons]
  cases t.predicate h <;> rfl

theorem predicate_group (T : Tree) : (Term.group T).predicate h = T.predicate h := by
  rw [Term.predicate, Tree.predicate]

theorem predicate_and (t u : Term) :
    Tree.predicate h [[t, u]] =
      (t.predicate h).bind fun p₁ => (u.predicate h).map (joinedBy (· && ·) p₁) := by
  have hall (p₁ p₂ : Predicate) : allOf [p₁, p₂] = joinedBy (· && ·) p₁ p₂ := by
    funext row ordinal
    simp [allOf, joinedBy]
  rw [Tree.predicate, predicates_cons, termPredicates_cons, termPredicates_cons]
  cases t.predicate h with
  | error e => rfl
  | ok p₁ =>
    cases u.predicate h with
    | error e => rfl
    | ok p₂ => exact congrArg Except.ok (hall p₁ p₂)

end Predicates

/-! ## What joined texts select -/

variable {h : Header} {q q₁ q₂ : String} {T T₁ T₂ : Tree}

/-- A text that is a query as a phrase is read as it. -/
theorem IsPhrase.read_eq {text : List Char} (h : IsPhrase text (.query T))
    (hq : q.toList = text) : read q = .ok T := by
  obtain ⟨ts, hrow, hd⟩ := h
  exact read_iff_isRow.2 ⟨ts, hq ▸ hrow, hd⟩

theorem isPhrase_of_read (hq : read q = .ok T) : IsPhrase q.toList (.query T) :=
  read_iff_isRow.1 hq

/-- A query is not blank. -/
theorem isBlank_of_read (hq : read q = .ok T) : Unicode.isBlank q = false := by
  obtain ⟨ts, hrow, hd⟩ := read_iff_isRow.1 hq
  rw [← Bool.not_eq_true, Unicode.isBlank, List.all_eq_true]
  exact hrow.not_blank hd.ne_nil

section Selections

variable [Pattern.Engine]

/-- What a text selects, told by what its parts do: it fails as the first
part that fails, and otherwise selects the rows that the connective says. -/
def Joined (connective : Bool → Bool → Bool) (h : Header) (q₁ q₂ q : String) : Prop :=
  match Selection.ofText q₁ h, Selection.ofText q₂ h with
  | .error e, _ => Selection.ofText q h = .error e
  | .ok _, .error e => Selection.ofText q h = .error e
  | .ok s₁, .ok s₂ => ∃ s, Selection.ofText q h = .ok s ∧ ∀ row ordinal,
      s.selects row ordinal = connective (s₁.selects row ordinal) (s₂.selects row ordinal)

/-- The same of a text with a single part, whose rows are those that the
part does not select. -/
def Negated (h : Header) (q₁ q : String) : Prop :=
  match Selection.ofText q₁ h with
  | .error e => Selection.ofText q h = .error e
  | .ok s₁ => ∃ s, Selection.ofText q h = .ok s ∧ ∀ row ordinal,
      s.selects row ordinal = !s₁.selects row ordinal

/-- A query selects by the predicate of its tree. -/
theorem ofText_of_read (hq : read q = .ok T) (h : Header) :
    Selection.ofText q h =
      ((T.predicate h).map fun p => ⟨q, some p⟩ : Except BindError Selection).mapError
        .unbound := by
  rw [Selection.ofText, isBlank_of_read hq, hq]
  rfl

/-- Texts are joined as their predicates are. -/
theorem joined_of_predicate {connective : Bool → Bool → Bool} (h₁ : read q₁ = .ok T₁)
    (h₂ : read q₂ = .ok T₂) (hq : read q = .ok T)
    (hT : T.predicate h =
      (T₁.predicate h).bind fun p₁ => (T₂.predicate h).map (joinedBy connective p₁)) :
    Joined connective h q₁ q₂ q := by
  rw [Joined, ofText_of_read h₁, ofText_of_read h₂, ofText_of_read hq, hT]
  cases T₁.predicate h with
  | error e => rfl
  | ok p₁ =>
    cases T₂.predicate h with
    | error e => rfl
    | ok p₂ => exact ⟨_, rfl, fun _ _ => rfl⟩

/-- **Queries are joined as texts.** The texts that are made of two queries
by AND, OR and NOT are queries, and have the trees that the words around the
parts say; with parentheses the parts are groups, and without them the
alternatives of one follow those of the other. Under every header they
select what the connective makes of what the parts select, or fail as the
first part that fails. -/
theorem select_joined (h : Header) {q₁ q₂ : String} {T₁ T₂ : Tree} (h₁ : read q₁ = .ok T₁)
    (h₂ : read q₂ = .ok T₂) :
    (read ("(" ++ q₁ ++ ") AND (" ++ q₂ ++ ")") = .ok [[.group T₁, .group T₂]] ∧
      Joined (· && ·) h q₁ q₂ ("(" ++ q₁ ++ ") AND (" ++ q₂ ++ ")")) ∧
    (read ("(" ++ q₁ ++ ") OR (" ++ q₂ ++ ")") = .ok [[.group T₁], [.group T₂]] ∧
      Joined (· || ·) h q₁ q₂ ("(" ++ q₁ ++ ") OR (" ++ q₂ ++ ")")) ∧
    (read (q₁ ++ " OR " ++ q₂) = .ok (T₁ ++ T₂) ∧
      Joined (· || ·) h q₁ q₂ (q₁ ++ " OR " ++ q₂)) ∧
    (read ("NOT (" ++ q₁ ++ ")") = .ok [[.negation (.group T₁)]] ∧
      Negated h q₁ ("NOT (" ++ q₁ ++ ")")) := by
  -- the texts are put together from the parts as the trees are
  have hp₁ := isPhrase_of_read h₁
  have hp₂ := isPhrase_of_read h₂
  have hand : read ("(" ++ q₁ ++ ") AND (" ++ q₂ ++ ")") = .ok [[.group T₁, .group T₂]] :=
    (hp₁.group.and hp₂.group.terms).query.read_eq (by simp)
  have hor : read ("(" ++ q₁ ++ ") OR (" ++ q₂ ++ ")") = .ok [[.group T₁], [.group T₂]] :=
    (hp₁.group.terms.query.or hp₂.group.terms.query).read_eq (by simp)
  have hbare : read (q₁ ++ " OR " ++ q₂) = .ok (T₁ ++ T₂) :=
    (hp₁.or hp₂).read_eq (by simp)
  have hnot : read ("NOT (" ++ q₁ ++ ")") = .ok [[.negation (.group T₁)]] :=
    hp₁.group.not.terms.query.read_eq (by simp)
  refine ⟨⟨hand, ?_⟩, ⟨hor, ?_⟩, ⟨hbare, ?_⟩, hnot, ?_⟩
  · refine joined_of_predicate h₁ h₂ hand ?_
    rw [predicate_and, predicate_group, predicate_group]
  · refine joined_of_predicate h₁ h₂ hor ?_
    -- the two alternatives are one behind the other
    change Tree.predicate h ([[.group T₁]] ++ [[.group T₂]]) = _
    rw [predicate_append, predicate_term, predicate_term, predicate_group, predicate_group]
  · exact joined_of_predicate h₁ h₂ hbare (predicate_append T₁ T₂)
  · rw [Negated, ofText_of_read h₁, ofText_of_read hnot, predicate_term, Term.predicate,
      predicate_group]
    cases T₁.predicate h with
    | error e => rfl
    | ok p => exact ⟨_, rfl, fun _ _ => rfl⟩

end Selections

/-- Quotes, words and parentheses within a part stay there. -/
theorem select_joined_quoted :
    read "$1 = ') OR ('" = .ok [[.comparison ⟨.index 1, .equal, .text ") OR ("⟩]] ∧
      read "b LIKE '\\'' " = .ok [[.comparison ⟨.name "b", .like, .text "'"⟩]] ∧
      read "($1 = ') OR (') AND (b LIKE '\\'' )" =
        .ok [[.group [[.comparison ⟨.index 1, .equal, .text ") OR ("⟩]],
          .group [[.comparison ⟨.name "b", .like, .text "'"⟩]]]] ∧
      Joined (· && ·) (.named ["a", "b"]) "$1 = ') OR ('" "b LIKE '\\'' "
        "($1 = ') OR (') AND (b LIKE '\\'' )" := by
  have h₁ : read "$1 = ') OR ('" = .ok [[.comparison ⟨.index 1, .equal, .text ") OR ("⟩]] := by
    cbv
  have h₂ : read "b LIKE '\\'' " = .ok [[.comparison ⟨.name "b", .like, .text "'"⟩]] := by
    cbv
  exact ⟨h₁, h₂, (select_joined (.named ["a", "b"]) h₁ h₂).1⟩

end Query

end RowQuery
