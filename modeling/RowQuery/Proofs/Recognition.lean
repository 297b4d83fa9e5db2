import RowQuery.Query.Reader
import RowQuery.Proofs.Grammar
/-!
# The reader recognises the grammar

`State.Next` says once what a token can do to a state, and `State.after`
follows a list of tokens. Two inductions tie them to the grammar: a phrase
takes a state that awaits a term to where the phrase has been added
(`Derives.added`, on the derivation), and whatever tokens led to a state,
its levels record how they derive (`State.Records`, kept by each token). So
the tokens that lead to the end of a query are those that derive it
(`derives_iff`), a state that was reached can always be completed
(`exists_completion`), and a token that it rejects can follow in no query.
-/

namespace RowQuery

namespace Query

/-- A token is read as a reference when it writes one. -/
theorem Token.reference?_eq_some_iff {t : Token} {x : Reference} :
    t.reference? = some x ↔ x.Written t := by
  constructor
  · intro h
    cases t with
    | name s => cases h; exact .name
    | quotedName s => cases h; exact .quotedName
    | index n =>
      cases n with
      | zero => cases h; exact .position
      | succ n => cases h; exact .index n.succ_pos
    | _ => cases h
  · rintro (- | - | - | hn)
    · rfl
    · rfl
    · rfl
    · cases hn <;> rfl

/-- And as an operand when it writes one. -/
theorem Token.operand?_eq_some_iff {t : Token} {y : Operand} :
    t.operand? = some y ↔ y.Written t := by
  cases y with
  | text s =>
    constructor
    · intro h
      cases t <;> simp [operand?] at h
      exact h ▸ .text
    · rintro ⟨⟩
      rfl
  | reference x =>
    have hx : t.operand? = some (.reference x) ↔ t.reference? = some x := by
      cases t <;> simp [operand?, reference?]
    rw [hx, reference?_eq_some_iff]
    constructor
    · exact .reference
    · intro h
      cases h with
      | reference h => exact h

namespace State

/-! ## What a token does -/

/-- **The transitions**: what a token that fits does to a state. -/
inductive Next : State → Token → State → Prop
  /-- A NOT waits for its term. -/
  | not {l : Level} {outer : List Level} :
      Next ⟨.term, l, outer⟩ .not ⟨.term, { l with negations := l.negations + 1 }, outer⟩
  /-- A parenthesis opens a level. -/
  | opening {l : Level} {outer : List Level} :
      Next ⟨.term, l, outer⟩ .opening ⟨.term, .start, l :: outer⟩
  /-- A reference begins a comparison. -/
  | subject {l : Level} {outer : List Level} {x : Reference} {t : Token} :
      x.Written t → Next ⟨.term, l, outer⟩ t ⟨.operator x, l, outer⟩
  /-- The operator behind it. -/
  | operator {l : Level} {outer : List Level} {x : Reference} {op : Operator} :
      Next ⟨.operator x, l, outer⟩ (.operator op) ⟨.operand x op, l, outer⟩
  /-- The operand that makes it a term. -/
  | operand {l : Level} {outer : List Level} {x : Reference} {op : Operator} {y : Operand}
      {t : Token} :
      y.Written t →
      Next ⟨.operand x op, l, outer⟩ t ⟨.joint, l.add (.comparison ⟨x, op, y⟩), outer⟩
  /-- A further term. -/
  | and {l : Level} {outer : List Level} : Next ⟨.joint, l, outer⟩ .and ⟨.term, l, outer⟩
  /-- A further alternative. -/
  | or {l : Level} {outer : List Level} : Next ⟨.joint, l, outer⟩ .or ⟨.term, l.next, outer⟩
  /-- A parenthesis makes the level a term of the one outside. -/
  | closing {l outside : Level} {outer : List Level} :
      Next ⟨.joint, l, outside :: outer⟩ .closing ⟨.joint, outside.add (.group l.tree), outer⟩

variable {s s' : State} {t : Token}

/-- Behind an operator all depends on whether the token writes an operand. -/
theorem step_operand {x : Reference} {op : Operator} {l : Level} {outer : List Level} :
    step ⟨.operand x op, l, outer⟩ t =
      match t.operand? with
      | some y => .proceed ⟨.joint, l.add (.comparison ⟨x, op, y⟩), outer⟩
      | none => .reject .operand := rfl

/-- A step goes on by a transition, and by each of them. -/
theorem step_eq_proceed_iff : s.step t = .proceed s' ↔ Next s t s' := by
  obtain ⟨phase, l, outer⟩ := s
  constructor
  · intro h
    cases phase with
    | term =>
      cases t with
      | not => cases h; exact .not
      | opening => cases h; exact .opening
      | name _ => cases h; exact .subject .name
      | quotedName _ => cases h; exact .subject .quotedName
      | index n =>
        cases n with
        | zero => cases h; exact .subject .position
        | succ n => cases h; exact .subject (.index n.succ_pos)
      | _ => cases h
    | operator x =>
      cases t with
      | operator op => cases h; exact .operator
      | _ => cases h
    | operand x op =>
      rw [step_operand] at h
      cases hy : t.operand? with
      | none => rw [hy] at h; cases h
      | some y =>
        rw [hy] at h
        cases h
        exact .operand (Token.operand?_eq_some_iff.1 hy)
    | joint =>
      rcases outer with - | ⟨outside, outer⟩ <;> cases t <;> cases h
      · exact .and
      · exact .or
      · exact .and
      · exact .or
      · exact .closing
  · intro h
    cases h with
    | not => rfl
    | opening => rfl
    | subject hx =>
      cases hx with
      | @index n hn => cases n <;> [cases hn; rfl]
      | _ => rfl
    | operator => rfl
    | operand hy => rw [step_operand, Token.operand?_eq_some_iff.2 hy]
    | and => rfl
    | or => rfl
    | closing => rfl

/-- The query is complete at the end of the text, outside all parentheses. -/
theorem step_eq_complete_iff {q : Tree} :
    s.step t = .complete q ↔ t = .finish ∧ ∃ l : Level, s = ⟨.joint, l, []⟩ ∧ l.tree = q := by
  obtain ⟨phase, l, outer⟩ := s
  constructor
  · intro h
    cases phase with
    | term =>
      cases t with
      | index n => cases n <;> cases h
      | _ => cases h
    | operator x => cases t <;> cases h
    | operand x op =>
      rw [step_operand] at h
      cases hy : t.operand? <;> rw [hy] at h <;> cases h
    | joint =>
      rcases outer with - | ⟨outside, outer⟩ <;> cases t <;> cases h
      exact ⟨rfl, l, rfl, rfl⟩
  · rintro ⟨rfl, l', hs, rfl⟩
    cases hs
    rfl

/-- A token that is rejected makes no transition. -/
theorem not_next_of_reject {wanted : Expected} (h : s.step t = .reject wanted) :
    ¬ Next s t s' := by
  rw [← step_eq_proceed_iff, h]
  nofun

/-! ## Following a list of tokens -/

/-- The state that tokens lead to, if all of them fit. -/
def after (s : State) : List Token → Option State
  | [] => some s
  | t :: ts =>
    match s.step t with
    | .proceed s' => s'.after ts
    | _ => none

/-- The first token makes a transition, and the others follow it. -/
theorem after_cons_iff {ts : List Token} {r : State} :
    s.after (t :: ts) = some r ↔ ∃ s', Next s t s' ∧ s'.after ts = some r := by
  rw [after]
  constructor
  · intro h
    cases hs : s.step t with
    | proceed s' => rw [hs] at h; exact ⟨s', step_eq_proceed_iff.1 hs, h⟩
    | complete q => rw [hs] at h; cases h
    | reject wanted => rw [hs] at h; cases h
  · rintro ⟨s', hn, h⟩
    rw [step_eq_proceed_iff.2 hn]
    exact h

/-- Tokens are followed in parts. -/
theorem after_append_iff {ts us : List Token} {r : State} :
    s.after (ts ++ us) = some r ↔ ∃ s', s.after ts = some s' ∧ s'.after us = some r := by
  induction ts generalizing s with
  | nil => simp [after]
  | cons t ts ih =>
    rw [List.cons_append, after_cons_iff]
    constructor
    · rintro ⟨s₁, hn, h⟩
      obtain ⟨s₂, h₁, h₂⟩ := ih.1 h
      exact ⟨s₂, after_cons_iff.2 ⟨s₁, hn, h₁⟩, h₂⟩
    · rintro ⟨s₂, h₁, h₂⟩
      obtain ⟨s₁, hn, h₁⟩ := after_cons_iff.1 h₁
      exact ⟨s₁, hn, ih.2 ⟨s₂, h₁, h₂⟩⟩

end State

/-! ## Phrases are read -/

/-- A NOT that was counted is a negation of the term behind it. -/
theorem Level.add_negation (l : Level) (t : Term) :
    Level.add { l with negations := l.negations + 1 } t = l.add (.negation t) := by
  have hcomm (n : ℕ) : (n + 1).repeat Term.negation t = n.repeat Term.negation (.negation t) := by
    induction n with
    | zero => rfl
    | succ n ih => rw [Nat.repeat, ih, Nat.repeat]
  rw [Level.add, Level.add, hcomm]

/-- What reading the tokens of a phrase does to a state that awaits a term:
the phrase is added to the level, and a word that joins or ends comes next. -/
def Phrase.Added (ts : List Token) : Phrase → Prop
  | .query q => ∀ alternatives outer, ∃ l : Level,
      State.after ⟨.term, ⟨alternatives, [], 0⟩, outer⟩ ts = some ⟨.joint, l, outer⟩ ∧
        l.tree = alternatives.reverse ++ q
  | .terms c => ∀ alternatives terms outer,
      State.after ⟨.term, ⟨alternatives, terms, 0⟩, outer⟩ ts =
        some ⟨.joint, ⟨alternatives, c.reverse ++ terms, 0⟩, outer⟩
  | .term t => ∀ l outer,
      State.after ⟨.term, l, outer⟩ ts = some ⟨.joint, l.add t, outer⟩

/-- **A phrase is read wherever a term is awaited.** The induction is on
the derivation; a group is read on a level of its own, at which the query in
it is the whole. -/
theorem Derives.added {ts : List Token} {p : Phrase} (h : Derives ts p) : p.Added ts := by
  induction h with
  | alternative _ ih =>
    intro alternatives outer
    refine ⟨_, ih alternatives [] outer, ?_⟩
    simp [Level.tree, Level.next]
  | @or ts us c q _ _ ihc ihq =>
    intro alternatives outer
    obtain ⟨l, hl, htree⟩ := ihq (c :: alternatives) outer
    refine ⟨l, State.after_append_iff.2 ⟨_, ihc alternatives [] outer, ?_⟩, ?_⟩
    · refine State.after_cons_iff.2 ⟨_, .or, ?_⟩
      simpa [Level.next] using hl
    · simp [htree]
  | single _ ih =>
    intro alternatives terms outer
    exact ih ⟨alternatives, terms, 0⟩ outer
  | @and ts us t c _ _ iht ihc =>
    intro alternatives terms outer
    refine State.after_append_iff.2 ⟨_, iht ⟨alternatives, terms, 0⟩ outer, ?_⟩
    refine State.after_cons_iff.2 ⟨_, .and, ?_⟩
    simpa [Level.add, Nat.repeat] using ihc alternatives (t :: terms) outer
  | @not ts t _ ih =>
    intro l outer
    refine State.after_cons_iff.2 ⟨_, .not, ?_⟩
    rw [ih, Level.add_negation]
  | @group ts q _ ih =>
    intro l outer
    obtain ⟨l', hl', htree⟩ := ih [] (l :: outer)
    refine State.after_cons_iff.2 ⟨_, .opening, ?_⟩
    refine State.after_append_iff.2 ⟨_, hl', ?_⟩
    refine State.after_cons_iff.2 ⟨_, .closing, ?_⟩
    simp [State.after, htree]
  | comparison hx hy =>
    intro l outer
    refine State.after_cons_iff.2 ⟨_, .subject hx, ?_⟩
    refine State.after_cons_iff.2 ⟨_, .operator, ?_⟩
    exact State.after_cons_iff.2 ⟨_, .operand hy, rfl⟩

/-! ## Levels record what was read -/

/-- Tokens that were read as alternatives, each up to its OR. -/
def AlternativesRead (ts : List Token) (alternatives : List Conjunction) : Prop :=
  (ts = [] ∧ alternatives = []) ∨
    ∃ us, ts = us ++ [.or] ∧ Derives us (.query alternatives.reverse)

/-- Tokens that were read as terms, each up to its AND. -/
def TermsRead (ts : List Token) (terms : List Term) : Prop :=
  (ts = [] ∧ terms = []) ∨ ∃ us, ts = us ++ [.and] ∧ Derives us (.terms terms.reverse)

/-- The tokens that were read of a level when it awaits a term. -/
def Level.Awaits (l : Level) (ts : List Token) : Prop :=
  ∃ as bs, ts = as ++ bs ++ List.replicate l.negations .not ∧
    AlternativesRead as l.alternatives ∧ TermsRead bs l.terms

/-- The tokens that were read of a level when it has just taken a term. -/
def Level.Ends (l : Level) (ts : List Token) : Prop :=
  l.negations = 0 ∧ ∃ as bs, ts = as ++ bs ∧
    AlternativesRead as l.alternatives ∧ Derives bs (.terms l.terms.reverse)

namespace Level

variable {l : Level} {ts us : List Token}

/-- A level starts with no tokens. -/
theorem awaits_start : start.Awaits [] :=
  ⟨[], [], rfl, .inl ⟨rfl, rfl⟩, .inl ⟨rfl, rfl⟩⟩

/-- It can be given a NOT. -/
theorem Awaits.not (h : l.Awaits ts) :
    Level.Awaits { l with negations := l.negations + 1 } (ts ++ [.not]) := by
  obtain ⟨as, bs, rfl, has, hbs⟩ := h
  refine ⟨as, bs, ?_, has, hbs⟩
  rw [List.append_assoc, List.replicate_succ']

/-- **The awaited term can be anything that derives one**: it takes the NOTs
that wait for it and stands behind the terms before it. -/
theorem Awaits.add {t : Term} (h : l.Awaits ts) (ht : Derives us (.term t)) :
    (l.add t).Ends (ts ++ us) := by
  obtain ⟨as, bs, rfl, has, hbs⟩ := h
  have hneg := ht.negations l.negations
  -- the term is the first of the alternative, or comes behind an AND
  rcases hbs with ⟨rfl, hterms⟩ | ⟨cs, rfl, hcs⟩
  · refine ⟨rfl, as, List.replicate l.negations .not ++ us, ?_, has, ?_⟩
    · simp
    · simpa [Level.add, hterms] using Derives.single hneg
  · refine ⟨rfl, as, cs ++ .and :: (List.replicate l.negations .not ++ us), ?_, has, ?_⟩
    · simp
    · simpa [Level.add] using hcs.and_last hneg

/-- Behind a term an AND makes a level await the next. -/
theorem Ends.and (h : l.Ends ts) : l.Awaits (ts ++ [.and]) := by
  obtain ⟨hneg, as, bs, rfl, has, hbs⟩ := h
  refine ⟨as, bs ++ [.and], ?_, has, .inr ⟨bs, rfl, hbs⟩⟩
  simp [hneg]

/-- **What was read of a level derives its query** when the level ends. -/
theorem Ends.query (h : l.Ends ts) : Derives ts (.query l.tree) := by
  obtain ⟨-, as, bs, rfl, has, hbs⟩ := h
  rcases has with ⟨rfl, halts⟩ | ⟨cs, rfl, hcs⟩
  · simpa [tree, next, halts] using Derives.alternative hbs
  · simpa [tree, next] using hcs.or_last hbs

/-- An OR closes the alternative. -/
theorem Ends.or (h : l.Ends ts) : l.next.Awaits (ts ++ [.or]) :=
  ⟨ts ++ [.or], [], by simp [next], .inr ⟨ts, rfl, h.query⟩, .inl ⟨rfl, rfl⟩⟩

end Level

/-- The tokens in front of the parentheses that are open. -/
inductive OpenRead : List Token → List Level → Prop
  /-- None is open. -/
  | none : OpenRead [] []
  /-- One was opened where a term was awaited. -/
  | opening {ts us : List Token} {l : Level} {outer : List Level} :
      OpenRead ts outer → l.Awaits us → OpenRead (ts ++ us ++ [.opening]) (l :: outer)

namespace State

/-- **What a state says of the tokens that led to it.** -/
inductive Records : List Token → State → Prop
  /-- A term is awaited. -/
  | term {ts us : List Token} {l : Level} {outer : List Level} :
      OpenRead ts outer → l.Awaits us → Records (ts ++ us) ⟨.term, l, outer⟩
  /-- A reference was read instead. -/
  | operator {ts us : List Token} {l : Level} {outer : List Level} {x : Reference} {t : Token} :
      OpenRead ts outer → l.Awaits us → x.Written t →
      Records (ts ++ us ++ [t]) ⟨.operator x, l, outer⟩
  /-- And an operator behind it. -/
  | operand {ts us : List Token} {l : Level} {outer : List Level} {x : Reference}
      {op : Operator} {t : Token} :
      OpenRead ts outer → l.Awaits us → x.Written t →
      Records (ts ++ us ++ [t] ++ [.operator op]) ⟨.operand x op, l, outer⟩
  /-- A term was read. -/
  | joint {ts us : List Token} {l : Level} {outer : List Level} :
      OpenRead ts outer → l.Ends us → Records (ts ++ us) ⟨.joint, l, outer⟩

variable {s s' : State} {t : Token} {ts us : List Token}

/-- Before the first token there is nothing to record. -/
theorem records_start : Records [] start :=
  .term .none Level.awaits_start

/-- **Each token keeps the record.** A closing parenthesis is where two
levels meet: the inner one ends, and its query is the term that the outer
one awaited. -/
theorem Records.next (h : Records ts s) (hn : Next s t s') : Records (ts ++ [t]) s' := by
  cases hn with
  | not =>
    obtain @⟨ts, us, _, _, ho, hl⟩ := h
    rw [List.append_assoc]
    exact .term ho hl.not
  | opening =>
    obtain @⟨ts, us, _, _, ho, hl⟩ := h
    simpa using Records.term (.opening ho hl) Level.awaits_start
  | subject hx =>
    obtain @⟨ts, us, _, _, ho, hl⟩ := h
    exact .operator ho hl hx
  | operator =>
    obtain _ | ⟨ho, hl, hx⟩ := h
    exact .operand ho hl hx
  | operand hy =>
    obtain _ | _ | @⟨ts, us, _, _, _, _, t, ho, hl, hx⟩ := h
    simpa using Records.joint ho (hl.add (.comparison hx hy))
  | and =>
    obtain _ | _ | _ | @⟨ts, us, _, _, ho, hl⟩ := h
    rw [List.append_assoc]
    exact .term ho hl.and
  | or =>
    obtain _ | _ | _ | @⟨ts, us, _, _, ho, hl⟩ := h
    rw [List.append_assoc]
    exact .term ho hl.or
  | closing =>
    obtain _ | _ | _ | @⟨ts, us, _, _, ho, hl⟩ := h
    -- what the level outside had read when this one was opened
    obtain _ | @⟨vs, ws, _, _, ho, hw⟩ := ho
    simpa using Records.joint ho (hw.add (.group hl.query))

/-- So the record is kept on the whole way. -/
theorem Records.after (h : Records ts s) (hs : s.after us = some s') : Records (ts ++ us) s' := by
  induction us generalizing ts s with
  | nil =>
    obtain rfl := Option.some.inj hs
    simpa using h
  | cons u us ih =>
    obtain ⟨s₁, hn, hs⟩ := after_cons_iff.1 hs
    simpa using ih (h.next hn) hs

end State

/-! ## Queries, and what can become one -/

variable {ts : List Token} {s : State}

/-- **The tokens of a query are those that lead to its end**, outside all
parentheses, with its tree on the level. -/
theorem derives_iff {q : Tree} :
    Derives ts (.query q) ↔
      ∃ l : Level, State.start.after ts = some ⟨.joint, l, []⟩ ∧ l.tree = q := by
  constructor
  · intro h
    exact h.added [] []
  · rintro ⟨l, hs, rfl⟩
    obtain _ | _ | _ | @⟨as, us, _, _, ho, hl⟩ := State.records_start.after hs
    cases ho
    exact hl.query

/-- **No list of tokens is two queries.** -/
theorem derives_unique {q q' : Tree} (h : Derives ts (.query q)) (h' : Derives ts (.query q')) :
    q = q' := by
  obtain ⟨l, hs, rfl⟩ := derives_iff.1 h
  obtain ⟨l', hs', rfl⟩ := derives_iff.1 h'
  rw [hs] at hs'
  cases hs'
  rfl

namespace State

/-- Open parentheses can be closed behind a term. -/
theorem exists_closed (l : Level) (outer : List Level) :
    ∃ us l', State.after ⟨.joint, l, outer⟩ us = some ⟨.joint, l', []⟩ := by
  induction outer generalizing l with
  | nil => exact ⟨[], l, rfl⟩
  | cons outside outer ih =>
    obtain ⟨us, l', h⟩ := ih (outside.add (.group l.tree))
    exact ⟨.closing :: us, l', after_cons_iff.2 ⟨_, .closing, h⟩⟩

/-- **Every state can be completed**: by the rest of a comparison, and as
many closing parentheses as are wanted. -/
theorem exists_completion (s : State) : ∃ us l, s.after us = some ⟨.joint, l, []⟩ := by
  obtain ⟨phase, l, outer⟩ := s
  -- first to the end of a term on this level, then out of the parentheses
  have hjoint : ∃ us l', State.after ⟨phase, l, outer⟩ us = some ⟨.joint, l', outer⟩ := by
    cases phase with
    | term => exact ⟨[.index 0, .operator .equal, .text ""], _, rfl⟩
    | operator x => exact ⟨[.operator .equal, .text ""], _, rfl⟩
    | operand x op => exact ⟨[.text ""], _, rfl⟩
    | joint => exact ⟨[], l, rfl⟩
  obtain ⟨us, l', hus⟩ := hjoint
  obtain ⟨vs, l'', hvs⟩ := exists_closed l' outer
  exact ⟨us ++ vs, l'', after_append_iff.2 ⟨_, hus, hvs⟩⟩

end State

/-- **Tokens that were followed are the start of a query.** -/
theorem exists_derives_of_after (hs : State.start.after ts = some s) :
    ∃ us q, Derives (ts ++ us) (.query q) := by
  obtain ⟨us, l, hus⟩ := s.exists_completion
  exact ⟨us, l.tree, derives_iff.2 ⟨l, State.after_append_iff.2 ⟨s, hs, hus⟩, rfl⟩⟩

/-- **A token that is rejected can follow in no query.** -/
theorem not_derives_of_reject {t : Token} {wanted : Expected}
    (hs : State.start.after ts = some s) (ht : s.step t = .reject wanted) (us : List Token)
    (q : Tree) : ¬ Derives (ts ++ t :: us) (.query q) := by
  intro h
  obtain ⟨l, hl, -⟩ := derives_iff.1 h
  obtain ⟨s', hs', hrest⟩ := State.after_append_iff.1 hl
  rw [hs] at hs'
  obtain rfl := Option.some.inj hs'
  -- the query would have to go on from the state that rejects
  obtain ⟨s₁, hn, -⟩ := State.after_cons_iff.1 hrest
  exact State.not_next_of_reject ht hn

/-- And where the end of the text is, the tokens are no query as they
stand. -/
theorem not_derives_of_reject_finish {wanted : Expected}
    (hs : State.start.after ts = some s) (ht : s.step .finish = .reject wanted) (q : Tree) :
    ¬ Derives ts (.query q) := by
  intro h
  obtain ⟨l, hl, hq⟩ := derives_iff.1 h
  rw [hs] at hl
  obtain rfl := Option.some.inj hl
  rw [State.step_eq_complete_iff.2 ⟨rfl, l, rfl, hq⟩] at ht
  cases ht

end Query

end RowQuery
