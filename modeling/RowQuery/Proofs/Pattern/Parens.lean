import Mathlib.Data.List.Basic
import RowQuery.Proofs.Pattern.Action
import RowQuery.Proofs.Pattern.Semantics
/-!
# Parentheses of patterns

The parentheses that the built-in engine gives a meaning, found by reading on
over what it refuses. In a pattern they go together
(`Progress.closes_parens`), inside of a group they are the same
(`Progress.parens_under`), and without escapes, brackets and comments they are
all that the text has (`Progress.parens_plain`): no name of a group, list of
flags or repetition count holds one.
-/

namespace RowQuery

namespace Pattern

/-- The parentheses of the head of a group behind the first one: one that sets
flags for what follows is closed at once. -/
def GroupHead.parens : GroupHead → List Paren
  | directive _ => [.closing]
  | _ => []

/-- The parentheses of an item. -/
def Action.parens : Action → List Paren
  | head g => .opening :: g.parens
  | close => [.closing]
  | _ => []

/-- Those of the item that a text starts with. -/
def Action.parensAt (f : Flags) (c : Char) (rest : List Char) : List Paren :=
  match Action.read f c rest with
  | .ok (a, _) => a.parens
  | .error _ => []

theorem Flags.length_lt_of_skip {f : Flags} {c : Char} {text rest : List Char}
    (h : f.skip text = c :: rest) : rest.length < text.length := by
  have hskip := f.length_skip_le text
  rw [h] at hskip
  exact hskip

namespace Progress

/-- The parentheses of a pattern that have a meaning. What is refused is passed
over, character by character. -/
def parens (p : Progress) (text : List Char) : List Paren :=
  match _ht : p.flags.skip text with
  | [] => []
  | c :: rest =>
    match _hs : p.step c rest with
    | .error _ => parentheses [c] ++ p.parens rest
    | .ok (q, after) => Action.parensAt p.flags c rest ++ q.parens after
termination_by text.length
decreasing_by
  · exact Flags.length_lt_of_skip _ht
  · exact Nat.lt_of_le_of_lt (length_step _hs) (Flags.length_lt_of_skip _ht)

theorem parens_eq (p : Progress) (text : List Char) : p.parens text =
    match p.flags.skip text with
    | [] => []
    | c :: rest =>
      match p.step c rest with
      | .error _ => parentheses [c] ++ p.parens rest
      | .ok (q, after) => Action.parensAt p.flags c rest ++ q.parens after := by
  rw [parens]
  split
  · next ht => simp only [ht]
  · next ht =>
    simp only [ht]
    split <;> next hs => simp only [hs]

variable {p q : Progress} {a : Action} {c : Char} {text rest after : List Char} {part : Part}

theorem parens_of_step (ht : p.flags.skip text = c :: rest) (hs : p.step c rest = .ok (q, after)) :
    p.parens text = Action.parensAt p.flags c rest ++ q.parens after := by
  rw [parens_eq, ht]
  simp only [hs]

/-- How many groups are open behind an item follows from its parentheses. -/
theorem closes_apply (h : a.apply p = .ok q) {ps : List Paren} (hps : Closes q.outer.length ps) :
    Closes p.outer.length (a.parens ++ ps) := by
  cases a with
  | head g =>
    cases g with
    | named name =>
      simp only [Action.apply, openGroup] at h
      split at h <;> cases h
      exact hps.opening
    | numbered | flagged f =>
      cases h
      exact hps.opening
    | directive f =>
      cases h
      exact hps.closing.opening
  | close =>
    simp only [Action.apply, closeGroup] at h
    split at h
    · cases h
    · next around outer hout =>
      cases h
      rw [hout]
      exact hps.closing
  | stroke =>
    cases h
    exact hps
  | again min max =>
    simp only [Action.apply, repeatLast] at h
    split at h <;> cases h
    exact hps
  | part r =>
    cases h
    exact hps

/-- **What is read to the end closes all groups that are open**, and no
others. -/
theorem closes_parens (h : p.run text = .ok part) : Closes p.outer.length (p.parens text) := by
  fun_induction Progress.run p text with
  | case1 p text ht =>
    simp only [finish] at h
    split at h
    · next hout =>
      rw [parens_eq, ht, List.isEmpty_iff.1 hout]
      exact .done
    · cases h
  | case2 => cases h
  | case3 p text c rest ht q after hs hl ih =>
    obtain ⟨a, ha, hq⟩ := exists_of_step hs
    rw [parens_of_step ht hs]
    simp only [Action.parensAt, ha]
    exact closes_apply hq (ih h)

/-- **The parentheses are the same inside of a group.** -/
theorem parens_under (e : Enclosing) (h : p.run text = .ok part) :
    (p.under e).parens text = p.parens text := by
  fun_induction Progress.run p text with
  | case1 p text ht => rw [parens_eq, parens_eq, under_flags, ht]
  | case2 => cases h
  | case3 p text c rest ht q after hs hl ih =>
    obtain ⟨a, ha, hq⟩ := exists_of_step hs
    have hunder : (p.under e).step c rest = .ok (q.under e, after) := by
      rw [step_eq, under_flags]
      simp only [ha, apply_under hq, Except.map]
    have ht' : (p.under e).flags.skip text = c :: rest := ht
    rw [parens_of_step ht hs, parens_of_step ht' hunder, under_flags, ih h]

end Progress

/-! ## Plain patterns -/

namespace Paren

theorem ofChar?_eq_none_iff {c : Char} : ofChar? c = none ↔ c ≠ '(' ∧ c ≠ ')' := by
  unfold ofChar?
  split <;> simp_all

/-- A kind of characters holds no parentheses if it holds neither of the two. -/
theorem ofChar?_eq_none {kind : Char → Bool} (hopen : kind '(' = false)
    (hclose : kind ')' = false) {c : Char} (hc : kind c = true) : ofChar? c = none := by
  rw [ofChar?_eq_none_iff]
  constructor
  · rintro rfl
    rw [hopen] at hc
    cases hc
  · rintro rfl
    rw [hclose] at hc
    cases hc

end Paren

/-- `Passes text after ps`: the text ends with `after`, and in front of that it
has the parentheses `ps`. -/
def Passes (text after : List Char) (ps : List Paren) : Prop :=
  ∃ front, text = front ++ after ∧ parentheses front = ps

theorem Plain.tail {c : Char} {text : List Char} (h : Plain (c :: text)) : Plain text := by
  simp only [Plain, List.mem_cons, not_or] at h ⊢
  exact ⟨h.1.2, h.2.1.2, h.2.2.2⟩

namespace Passes

variable {text after left : List Char} {ps qs : List Paren} {c : Char} {f : Flags}

theorem refl (text : List Char) : Passes text text [] :=
  ⟨[], rfl, rfl⟩

theorem cons (c : Char) (h : Passes text after ps) :
    Passes (c :: text) after (parentheses [c] ++ ps) := by
  obtain ⟨front, rfl, rfl⟩ := h
  exact ⟨c :: front, rfl, by simp [parentheses, ← List.filterMap_append]⟩

theorem cons_of_none (hc : Paren.ofChar? c = none) (h : Passes text after ps) :
    Passes (c :: text) after ps := by
  simpa [parentheses, hc] using h.cons c

theorem trans (h : Passes text after ps) (h' : Passes after left qs) :
    Passes text left (ps ++ qs) := by
  obtain ⟨front, rfl, rfl⟩ := h
  obtain ⟨front', rfl, rfl⟩ := h'
  exact ⟨front ++ front', by simp, by simp [parentheses]⟩

theorem plain (h : Passes text after ps) (hplain : Plain text) : Plain after := by
  obtain ⟨front, rfl, -⟩ := h
  simp only [Plain, List.mem_append, not_or] at hplain ⊢
  exact ⟨hplain.1.2, hplain.2.1.2, hplain.2.2.2⟩

theorem parentheses_eq (h : Passes text after ps) : parentheses text = ps ++ parentheses after := by
  obtain ⟨front, rfl, rfl⟩ := h
  simp [parentheses]

/-- Characters of a kind that holds no parentheses are passed over. -/
theorem dropWhile {kind : Char → Bool} (hopen : kind '(' = false) (hclose : kind ')' = false)
    (text : List Char) : Passes text (text.dropWhile kind) [] := by
  induction text with
  | nil => exact refl []
  | cons c text ih =>
    rw [List.dropWhile_cons]
    split
    · next hc => exact ih.cons_of_none (Paren.ofChar?_eq_none hopen hclose hc)
    · exact refl _

theorem skip (hplain : Plain text) : Passes text (f.skip text) [] := by
  have hblank : Passes text (Flags.skipBlank false text) [] := by
    induction text with
    | nil => exact refl []
    | cons c text ih =>
      have hcomment : c ≠ '#' := by
        rintro rfl
        exact hplain.2.2 (List.mem_cons_self ..)
      have htext : Plain text := hplain.tail
      rw [Flags.skipBlank]
      simp only [Bool.false_eq_true, if_false, hcomment]
      split
      · next hc => exact (ih htext).cons_of_none (Paren.ofChar?_eq_none rfl rfl hc)
      · exact refl _
  unfold Flags.skip
  split
  · exact hblank
  · exact refl _

theorem skipLazy (text : List Char) : Passes text (skipLazy text) [] := by
  unfold Pattern.skipLazy
  split
  · exact (refl _).cons_of_none rfl
  · exact refl _

theorem countDigits (hplain : Plain text) : Passes text (countDigits f text).2 [] := by
  fun_induction Pattern.countDigits f text with
  | case1 => exact refl []
  | case2 c rest hc digits left hd ih =>
    have hrest : Passes rest (f.skip rest) [] := skip hplain.tail
    have hleft := hrest.trans (ih (hrest.plain hplain.tail))
    simp only [hd] at hleft
    exact hleft.cons_of_none (Paren.ofChar?_eq_none rfl rfl hc)
  | case3 c rest hc => exact refl _

theorem skipSpace (hplain : Plain text) : Passes text (skipSpace f text) [] := by
  fun_induction Pattern.skipSpace f text with
  | case1 => exact refl []
  | case2 c rest hc ih =>
    have hrest : Passes rest (f.skip rest) [] := skip hplain.tail
    exact (hrest.trans (ih (hrest.plain hplain.tail))).cons_of_none
      (Paren.ofChar?_eq_none rfl rfl hc)
  | case3 c rest hc => exact refl _

theorem count {n : Option ℕ} (hplain : Plain text) (h : count f text = .ok (n, after)) :
    Passes text after [] := by
  have hspace : Passes text (text.dropWhile Unicode.isWhiteSpace) [] := dropWhile rfl rfl text
  have hdigits := hspace.trans (countDigits (f := f) (hspace.plain hplain))
  have hleft := hdigits.trans (skipSpace (f := f) (hdigits.plain hplain))
  unfold Pattern.count at h
  split at h
  next digits behind hd =>
  simp only [hd] at hleft
  split at h
  · cases h
    exact hleft
  · dsimp only at h
    split at h <;> cases h
    exact hleft

theorem counts {n : ℕ × Option ℕ} (hplain : Plain text) (h : counts f text = .ok (n, after)) :
    Passes text after [] := by
  -- what is left when the closing brace was taken
  have hclosed {tail : List Char} (htail : Passes text ('\x7d' :: tail) []) :
      Passes text (Pattern.skipLazy (f.skip tail)) [] := by
    have htail' : Passes text tail [] := htail.trans ((refl tail).cons_of_none rfl)
    exact (htail'.trans (skip (htail'.plain hplain))).trans (skipLazy _)
  have hskip : Passes text (f.skip text) [] := skip hplain
  have hcount {n : Option ℕ} {left tail : List Char} (hleft : Passes text left [])
      (hc : Pattern.count f left = .ok (n, tail)) : Passes text tail [] :=
    hleft.trans (count (hleft.plain hplain) hc)
  unfold Pattern.counts at h
  split at h
  · next least tail hc =>
    cases h
    exact hclosed (hcount hskip hc)
  · next least tail hc =>
    have htail : Passes text tail [] := (hcount hskip hc).trans ((refl tail).cons_of_none rfl)
    have hbehind : Passes text (f.skip tail) [] := htail.trans (skip (htail.plain hplain))
    split at h
    · next tail' hs =>
      cases h
      rw [hs] at hbehind
      exact hclosed hbehind
    · split at h
      · next most tail' hc' =>
        split at h <;> cases h
        exact hclosed (hcount hbehind hc')
      · cases h
      · cases h
  · cases h
  · cases h

theorem readList {g : Flags} {seen used : List Flag} {on dangling : Bool}
    (h : f.readList seen on dangling text = .ok (g, used, after)) : Passes text after [] := by
  induction text generalizing f seen on dangling with
  | nil => simp [Flags.readList] at h
  | cons c text ih =>
    rw [Flags.readList] at h
    split at h
    · split at h <;> cases h
      exact refl _
    · next hend =>
      split at h
      · next hminus =>
        split at h
        · exact (ih h).cons_of_none (hminus ▸ rfl)
        · cases h
      · split at h
        · cases h
        · next flag hflag =>
          have hopen : c ≠ '(' := by
            rintro rfl
            cases hflag
          split at h
          · cases h
          · exact (ih h).cons_of_none
              (Paren.ofChar?_eq_none_iff.2 ⟨hopen, fun hc => hend (.inr hc)⟩)

end Passes

/-- A list of flags ends with a colon or a parenthesis. -/
theorem Flags.eq_of_readList {f g : Flags} {seen used : List Flag} {on dangling : Bool}
    {text rest : List Char} {c : Char}
    (h : f.readList seen on dangling text = .ok (g, used, c :: rest)) : c = ':' ∨ c = ')' := by
  induction text generalizing f seen on dangling with
  | nil => simp [readList] at h
  | cons d text ih =>
    rw [readList] at h
    split at h
    · next hend =>
      split at h <;> cases h
      exact hend
    · split at h
      · split at h
        · exact ih h
        · cases h
      · split at h
        · cases h
        · split at h
          · cases h
          · exact ih h

namespace GroupHead

variable {f : Flags} {text after : List Char} {g : GroupHead}

theorem passes_name (h : name text = .ok (g, after)) : Passes text after g.parens := by
  unfold name at h
  split at h
  · cases h
  · next c rest =>
    split at h
    · next hc =>
      split at h
      · next behind hd =>
        cases h
        have hrest : Passes rest ('>' :: after) [] := hd ▸ Passes.dropWhile rfl rfl rest
        have hstart : Paren.ofChar? c = none := Paren.ofChar?_eq_none rfl rfl hc
        exact (hrest.trans ((Passes.refl after).cons_of_none rfl)).cons_of_none hstart
      · cases h
    · cases h

theorem passes_flags (h : flags f text = .ok (g, after)) : Passes text after g.parens := by
  unfold flags at h
  split at h
  case h_1 | h_3 | h_5 => cases h
  case h_2 hr =>
    cases h
    exact (Passes.readList hr).trans ((Passes.refl after).cons_of_none rfl)
  case h_4 c _ hcolon _ hr =>
    cases h
    obtain rfl : c = ')' := (Flags.eq_of_readList hr).resolve_left hcolon
    exact (Passes.readList hr).trans ((Passes.refl after).cons ')')

theorem passes_read (hplain : Plain text) (h : read f text = .ok (g, after)) :
    Passes text after g.parens := by
  have hskip : Passes text (f.skip text) [] := Passes.skip hplain
  unfold read at h
  split at h
  case h_1 | h_2 | h_3 | h_4 => cases h
  case h_5 rest hs =>
    have hmark : Passes ('?' :: 'P' :: '<' :: rest) rest [] :=
      (((Passes.refl rest).cons_of_none rfl).cons_of_none rfl).cons_of_none rfl
    exact ((hs ▸ hskip).trans hmark).trans (passes_name h)
  case h_6 rest _ _ hs =>
    have hmark : Passes ('?' :: '<' :: rest) rest [] :=
      ((Passes.refl rest).cons_of_none rfl).cons_of_none rfl
    exact ((hs ▸ hskip).trans hmark).trans (passes_name h)
  case h_7 rest _ _ _ _ _ _ hs =>
    exact ((hs ▸ hskip).trans ((Passes.refl rest).cons_of_none rfl)).trans (passes_flags h)
  case h_8 =>
    cases h
    exact hskip

end GroupHead

/-- **A plain item holds no parentheses but its own.** -/
theorem Action.passes_read {f : Flags} {c : Char} {rest after : List Char} {a : Action}
    (hplain : Plain (c :: rest)) (h : Action.read f c rest = .ok (a, after)) :
    Passes (c :: rest) after a.parens := by
  have hrest : Plain rest := hplain.tail
  unfold Action.read at h
  split at h
  case h_1 =>
    obtain ⟨⟨g, _⟩, hg, heq⟩ := Text.exists_of_map_eq_ok h
    cases heq
    exact (GroupHead.passes_read hrest hg).cons '('
  case h_4 => exact absurd (List.mem_cons_self ..) hplain.2.1
  case h_9 => exact absurd (List.mem_cons_self ..) hplain.1
  case h_5 | h_6 | h_7 =>
    cases h
    exact (Passes.skipLazy rest).cons_of_none rfl
  case h_8 =>
    obtain ⟨_, hn, heq⟩ := Text.exists_of_map_eq_ok h
    cases heq
    exact (Passes.counts hrest hn).cons_of_none rfl
  case h_10 =>
    obtain ⟨_, -, heq⟩ := Text.exists_of_map_eq_ok h
    cases heq
    exact (Passes.refl rest).cons_of_none rfl
  case h_2 =>
    cases h
    exact (Passes.refl rest).cons ')'
  case h_13 hopen hclose _ _ _ _ _ _ _ _ _ _ =>
    cases h
    exact (Passes.refl rest).cons_of_none (Paren.ofChar?_eq_none_iff.2 ⟨hopen, hclose⟩)
  all_goals
    cases h
    exact (Passes.refl rest).cons_of_none rfl

/-- **In a plain text all parentheses have a meaning.** -/
theorem Progress.parens_plain (p : Progress) {text : List Char} (hplain : Plain text) :
    p.parens text = parentheses text := by
  have hskip : Passes text (p.flags.skip text) [] := Passes.skip hplain
  fun_induction Progress.parens p text with
  | case1 p text ht =>
    rw [ht] at hskip
    exact hskip.parentheses_eq.symm
  | case2 p text c rest ht e hs ih =>
    -- nothing is read, so the text goes on behind the character
    rw [ht] at hskip
    have hrest : Passes text rest (parentheses [c]) := hskip.trans ⟨[c], rfl, rfl⟩
    rw [hrest.parentheses_eq, ih (hrest.plain hplain) (Passes.skip (hrest.plain hplain))]
  | case3 p text c rest ht q after hs ih =>
    obtain ⟨a, ha, -⟩ := exists_of_step hs
    rw [ht] at hskip
    have hitem : Passes (c :: rest) after a.parens :=
      Action.passes_read (hskip.plain hplain) ha
    have hafter : Passes text after a.parens := hskip.trans hitem
    rw [hafter.parentheses_eq, ih (hafter.plain hplain) (Passes.skip (hafter.plain hplain))]
    simp only [Action.parensAt, ha]

end Pattern

end RowQuery
