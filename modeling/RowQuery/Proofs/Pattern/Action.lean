import RowQuery.Proofs.Pattern.Bracket
import RowQuery.Proofs.Pattern.Group
import RowQuery.Proofs.Pattern.Matching
/-!
# Items of a pattern as actions

One round of the loop over a pattern reads an item and lets it act on what
was read before (`Progress.step_eq`). What is read depends on the flags and
on the text, and the action never reaches further out than the groups that
the pattern has opened itself. So a pattern does the same inside of a group
as it does alone, up to the point where it ends: `Progress.exists_reads`,
`Progress.Reads.under`.

The other fact kept along the loop is that no repetition is read that asks
for more rounds than it allows (`Progress.ordered_run`).
-/

namespace RowQuery

namespace Pattern

/-- What one item of a pattern does. -/
inductive Action
  /-- It opens a group, or sets flags. -/
  | head (g : GroupHead)
  /-- It closes a group. -/
  | close
  /-- It starts a new alternative. -/
  | stroke
  /-- It repeats the item before. -/
  | again (min : ℕ) (max : Option ℕ)
  /-- It is a part of the expression. -/
  | part (p : Part)

/-- The atom that an escape stands for. -/
def Escape.atom (f : Flags) : Escape → Atom
  | literal c => .chars (f.fold (.single c.toNat))
  | chars s => .chars s
  | look l => .look l

namespace Action

/-- Reads an item, of which `c` is the first character. -/
def read (f : Flags) (c : Char) (rest : List Char) : Reading Action :=
  match c with
  | '(' => (GroupHead.read f rest).map fun (g, rest) => (.head g, rest)
  | ')' => .ok (.close, rest)
  | '|' => .ok (.stroke, rest)
  | '[' => (Bracket.read f rest).map fun (n, rest) => (.part ⟨.atom (.chars n.set), n.depth⟩, rest)
  | '?' => .ok (.again 0 (some 1), skipLazy rest)
  | '*' => .ok (.again 0 none, skipLazy rest)
  | '+' => .ok (.again 1 none, skipLazy rest)
  | '\x7b' => (counts f rest).map fun ((least, most), rest) => (.again least most, rest)
  | '\\' => (Escape.read f rest).map fun (e, rest) => (.part ⟨.atom (e.atom f), 0⟩, rest)
  | '.' => (dot f).map fun s => (.part ⟨.atom (.chars s), 0⟩, rest)
  | '^' => .ok (.part ⟨.atom (.look (circumflex f)), 0⟩, rest)
  | '$' => .ok (.part ⟨.atom (.look (dollar f)), 0⟩, rest)
  | c => .ok (.part ⟨.atom (.chars (f.fold (.single c.toNat))), 0⟩, rest)

/-- Lets an item act on what was read before. -/
def apply (p : Progress) : Action → Except Defect Progress
  | head g => p.openGroup g
  | close => p.closeGroup
  | stroke => .ok { p with scope := p.scope.next }
  | again min max => p.repeatLast min max
  | part q => .ok (p.add (.part q))

end Action

/-- **A round of the loop reads an item and lets it act.** -/
theorem Progress.step_eq (p : Progress) (c : Char) (rest : List Char) :
    p.step c rest =
      match Action.read p.flags c rest with
      | .error e => .error e
      | .ok (a, after) => (a.apply p).map (·, after) := by
  unfold step Action.read
  split
  case h_1 => cases GroupHead.read p.flags rest <;> rfl
  case h_4 => cases Bracket.read p.flags rest <;> rfl
  case h_8 => cases counts p.flags rest <;> rfl
  case h_9 =>
    rcases Escape.read p.flags rest with - | ⟨e, after⟩
    · rfl
    · cases e <;> rfl
  case h_10 => cases dot p.flags <;> rfl
  case h_13 =>
    -- `c` is none of the characters above
    simp only [*]
    rfl
  all_goals rfl

namespace Progress

/-- A round that succeeds has read an item, and the item has acted. -/
theorem exists_of_step {p q : Progress} {c : Char} {rest after : List Char}
    (h : p.step c rest = .ok (q, after)) :
    ∃ a, Action.read p.flags c rest = .ok (a, after) ∧ a.apply p = .ok q := by
  rw [step_eq] at h
  split at h
  · cases h
  · next a left ha =>
    obtain ⟨r, hr, heq⟩ := Text.exists_of_map_eq_ok h
    cases heq
    exact ⟨a, ha, hr⟩

theorem run_eq (p : Progress) (text : List Char) : p.run text =
    match p.flags.skip text with
    | [] => p.finish
    | c :: rest =>
      match p.step c rest with
      | .error e => .error e
      | .ok (q, after) => q.run after := by
  rw [run]
  split
  · next ht => simp only [ht]
  · next ht =>
    simp only [ht]
    split <;> next hs => simp only [hs]

/-- `p.Reads text q left`: from `p` the items of `text` up to `left` are
read, and lead to `q`. -/
inductive Reads : Progress → List Char → Progress → List Char → Prop
  /-- No item is read. -/
  | refl {p : Progress} {text : List Char} : Reads p text p text
  /-- One item, and then others. -/
  | step {p q r : Progress} {c : Char} {text rest after left : List Char} :
      p.flags.skip text = c :: rest → p.step c rest = .ok (q, after) →
      Reads q after r left → Reads p text r left

theorem Reads.trans {p q r : Progress} {text after left : List Char} (hp : p.Reads text q after)
    (hq : q.Reads after r left) : p.Reads text r left := by
  induction hp with
  | refl => exact hq
  | step ht hs _ ih => exact .step ht hs (ih hq)

/-- What comes of a pattern is decided by what is left of it. -/
theorem Reads.run_eq {p q : Progress} {text left : List Char} (h : p.Reads text q left) :
    p.run text = q.run left := by
  induction h with
  | refl => rfl
  | step ht hs _ ih =>
    rw [Progress.run_eq, ht]
    simp only [hs]
    exact ih

/-- A pattern does not end inside of a group. -/
theorem run_eq_error {p : Progress} {text : List Char} (hp : p.outer ≠ [])
    (hend : p.flags.skip text = []) : p.run text = .error .unclosedGroup := by
  rw [run_eq, hend]
  simp [finish, hp]

end Progress

/-! ## Inside of a group -/

/-- **An item is read with a parenthesis behind it**, but for one that opens
a group where the text ends. -/
theorem Action.read_append {f : Flags} {c : Char} {rest after : List Char} {a : Action}
    (h : Action.read f c rest = .ok (a, after)) :
    (a = .head .numbered ∧ after = []) ∨
      ∃ left, Trails after left ∧
        ∀ line, Action.read f c (rest ++ ')' :: line) = .ok (a, left line) := by
  have hall {after : List Char} : Trails after fun line => after ++ ')' :: line :=
    .inl fun line => rfl
  unfold Action.read at h ⊢
  split at h
  case h_1 =>
    obtain ⟨⟨g, left⟩, hg, heq⟩ := Text.exists_of_map_eq_ok h
    cases heq
    by_cases hend : g = .numbered ∧ after = []
    · exact .inl ⟨by rw [hend.1], hend.2⟩
    · right
      have hgroup (line : List Char) :
          GroupHead.read f (rest ++ ')' :: line) = .ok (g, after ++ ')' :: line) :=
        (GroupHead.read_append hg).resolve_left hend
      simp only [hgroup]
      exact ⟨_, hall, fun line => rfl⟩
  case h_4 =>
    refine .inr ⟨_, hall, fun line => ?_⟩
    exact map_read_append (g := fun n => part ⟨.atom (.chars n.set), n.depth⟩)
      (fun _ _ hn => Bracket.read_append hn) h
  case h_5 | h_6 | h_7 =>
    cases h
    right
    simp only [skipLazy_closing]
    exact ⟨_, hall, fun line => rfl⟩
  case h_8 =>
    obtain ⟨⟨n, left⟩, hn, heq⟩ := Text.exists_of_map_eq_ok h
    cases heq
    obtain ⟨left', hleft, hn'⟩ := counts_append hn
    right
    simp only [hn']
    exact ⟨_, hleft, fun line => rfl⟩
  case h_9 =>
    refine .inr ⟨_, hall, fun line => ?_⟩
    exact map_read_append (g := fun e => part ⟨.atom (e.atom f), 0⟩)
      (fun _ _ he => Escape.read_append he) h
  case h_10 => exact .inr ⟨_, hall, fun line => map_left_append h⟩
  all_goals
    cases h
    exact .inr ⟨_, hall, fun line => rfl⟩

namespace Progress

/-- The same progress inside of one group more. -/
def under (e : Enclosing) (p : Progress) : Progress :=
  { p with outer := p.outer ++ [e] }

@[simp] theorem under_scope (e : Enclosing) (p : Progress) : (p.under e).scope = p.scope := rfl

@[simp] theorem under_flags (e : Enclosing) (p : Progress) : (p.under e).flags = p.flags := rfl

@[simp] theorem under_outer (e : Enclosing) (p : Progress) :
    (p.under e).outer = p.outer ++ [e] := rfl

@[simp] theorem under_names (e : Enclosing) (p : Progress) : (p.under e).names = p.names := rfl

/-- **An item acts the same inside of a group**: it does not reach further
out than to the groups that the pattern opened. -/
theorem apply_under {a : Action} {e : Enclosing} {p q : Progress} (h : a.apply p = .ok q) :
    a.apply (p.under e) = .ok (q.under e) := by
  cases a with
  | head g =>
    cases g with
    | named name =>
      simp only [Action.apply, openGroup, under_names] at h ⊢
      split at h
      · cases h
      · next hn =>
        cases h
        exact if_neg hn
    | numbered | flagged | directive =>
      cases h
      rfl
  | close =>
    simp only [Action.apply, closeGroup, under_outer] at h ⊢
    split at h
    · cases h
    · next around outer ho =>
      cases h
      rw [ho]
      rfl
  | stroke =>
    cases h
    rfl
  | again min max =>
    simp only [Action.apply, repeatLast, under_scope] at h ⊢
    split at h
    · cases h
      rfl
    · cases h
  | part r =>
    cases h
    rfl

/-- So items lead to the same inside of a group. -/
theorem Reads.under {p q : Progress} {text left : List Char} {e : Enclosing}
    (h : p.Reads text q left) : (p.under e).Reads text (q.under e) left := by
  induction h with
  | refl => exact .refl
  | step ht hs _ ih =>
    obtain ⟨a, ha, hq⟩ := exists_of_step hs
    refine .step ht ?_ ih
    rw [step_eq, under_flags]
    simp only [ha, apply_under hq, Except.map]

/-- Only what is not passed over matters to a run. -/
theorem run_congr {p : Progress} {s t : List Char} (h : p.flags.skip s = p.flags.skip t) :
    p.run s = p.run t := by
  rw [run_eq, run_eq p t, h]

/-- **The items of a pattern are read with a parenthesis behind it**, and what
was read then is the whole of it: the parenthesis comes next, unless it was
passed over with its line. -/
theorem exists_reads {p : Progress} {text : List Char} {part : Part} (h : p.run text = .ok part) :
    ∃ (q : Progress) (left : List Char → List Char), q.outer = [] ∧ q.scope.part = part ∧
      (∀ line, p.Reads (text ++ ')' :: line) q (left line)) ∧
      Trails [] fun line => q.flags.skip (left line) := by
  fun_induction Progress.run p text with
  | case1 p text ht =>
    simp only [finish] at h
    split at h
    · next hout =>
      refine ⟨p, _, List.isEmpty_iff.1 hout, Except.ok.inj h, fun line => .refl, ?_⟩
      rw [← ht]
      exact p.flags.skip_closing text
    · cases h
  | case2 => cases h
  | case3 p text c rest ht q after hs hl ih =>
    obtain ⟨a, ha, hq⟩ := exists_of_step hs
    have hstep {left : List Char → List Char} {line : List Char}
        (hread : Action.read p.flags c (rest ++ ')' :: line) = .ok (a, left line)) :
        p.step c (rest ++ ')' :: line) = .ok (q, left line) := by
      simp only [step_eq, hread, hq, Except.map]
    rcases Action.read_append ha with ⟨rfl, rfl⟩ | ⟨left, hafter | ⟨rfl, hnone⟩, hread⟩
    · -- the pattern would end with an open parenthesis
      cases hq
      rw [run_eq_error (by simp) (Flags.skip_nil _)] at h
      cases h
    · obtain ⟨r, left', hout, hpart, hreads, htrails⟩ := ih h
      refine ⟨r, left', hout, hpart, fun line => ?_, htrails⟩
      refine .step (Flags.skip_append ht) (hstep (hread line)) ?_
      rw [hafter line]
      exact hreads line
    · -- the pattern ends here, and what follows on the line was passed over
      rw [run_eq, Flags.skip_nil] at h
      simp only [finish] at h
      split at h
      · next hout =>
        refine ⟨q, left, List.isEmpty_iff.1 hout, Except.ok.inj h, fun line => ?_, ?_⟩
        · exact .step (Flags.skip_append ht) (hstep (hread line)) .refl
        · refine .inr ⟨rfl, fun line hline => ?_⟩
          simp only [hnone line hline, Flags.skip_nil]
      · cases h

end Progress

/-! ## Repetitions that can be made -/

/-- Whether every part that was read asks for no more rounds than it
allows. -/
def Scope.Ordered (s : Scope) : Prop :=
  (∀ q ∈ s.alternatives, q.regex.Ordered) ∧ ∀ q, Item.part q ∈ s.items → q.regex.Ordered

/-- The same of the groups around. -/
def Progress.Ordered (p : Progress) : Prop :=
  p.scope.Ordered ∧ ∀ e ∈ p.outer, e.scope.Ordered

/-- And of an item. -/
def Action.Ordered : Action → Prop
  | again min max => ∀ k, max = some k → min ≤ k
  | part q => q.regex.Ordered
  | _ => True

theorem Item.ordered_row {items : List Item} (h : ∀ q, part q ∈ items → q.regex.Ordered) :
    (row items).regex.Ordered := by
  have hregex : (regex items).Ordered := by
    fun_induction regex items with
    | case1 => trivial
    | case2 q => exact h q (by simp)
    | case3 q rest hne ih => exact ⟨h q (by simp), ih fun r hr => h r (by simp [hr])⟩
    | case4 rest ih => exact ih fun r hr => h r (by simp [hr])
  match items with
  | [] | [_] | _ :: _ :: _ => exact hregex

theorem Part.ordered_either {parts : List Part} (h : ∀ q ∈ parts, q.regex.Ordered) :
    (either parts).regex.Ordered := by
  have hchoice {first : Regex Atom} {rest : List Part} (hfirst : first.Ordered)
      (hrest : ∀ q ∈ rest, q.regex.Ordered) : (choice first rest).Ordered := by
    induction rest generalizing first with
    | nil => exact hfirst
    | cons q rest ih =>
      exact ⟨hfirst, ih (hrest q (by simp)) fun r hr => hrest r (by simp [hr])⟩
  match parts with
  | [] => trivial
  | [q] => exact h q (by simp)
  | q :: r :: rest => exact hchoice (h q (by simp)) fun s hs => h s (by simp [hs])

namespace Scope.Ordered

variable {s : Scope}

theorem next (h : s.Ordered) : s.next.Ordered := by
  refine ⟨?_, by simp [Scope.next]⟩
  simp only [Scope.next, List.mem_cons, forall_eq_or_imp]
  exact ⟨Item.ordered_row fun q hq => h.2 q (by simpa using hq), h.1⟩

theorem part (h : s.Ordered) : s.part.regex.Ordered :=
  Part.ordered_either fun q hq => h.next.1 q (by simpa using hq)

theorem add (h : s.Ordered) {q : Part} (hq : q.regex.Ordered) : (s.add (.part q)).Ordered := by
  refine ⟨h.1, fun r hr => ?_⟩
  simp only [Scope.add, List.mem_cons, Item.part.injEq] at hr
  rcases hr with rfl | hr
  · exact hq
  · exact h.2 r hr

end Scope.Ordered

/-- The counts of a repetition are in order. -/
theorem Action.ordered_read {f : Flags} {c : Char} {rest after : List Char} {a : Action}
    (h : Action.read f c rest = .ok (a, after)) : a.Ordered := by
  unfold Action.read at h
  split at h
  case h_1 =>
    obtain ⟨_, -, heq⟩ := Text.exists_of_map_eq_ok h
    cases heq
    trivial
  case h_8 =>
    obtain ⟨_, hn, heq⟩ := Text.exists_of_map_eq_ok h
    cases heq
    exact fun k hk => le_of_counts hn hk
  case h_4 | h_9 | h_10 =>
    obtain ⟨_, -, heq⟩ := Text.exists_of_map_eq_ok h
    cases heq
    trivial
  case h_5 =>
    cases h
    rintro k ⟨⟩
    exact Nat.zero_le 1
  case h_6 | h_7 =>
    cases h
    exact nofun
  all_goals
    cases h
    trivial

namespace Progress

variable {p q : Progress}

theorem Ordered.opened (hp : p.Ordered) {f : Flags} {numbered : Bool} {names : List String} :
    Ordered ⟨.start, f, ⟨p.scope, p.flags, numbered⟩ :: p.outer, names⟩ := by
  refine ⟨⟨by simp [Scope.start], by simp [Scope.start]⟩, ?_⟩
  simp only [List.mem_cons, forall_eq_or_imp]
  exact hp

/-- **An action keeps the order.** -/
theorem ordered_apply {a : Action} (hp : p.Ordered) (ha : a.Ordered) (h : a.apply p = .ok q) :
    q.Ordered := by
  cases a with
  | head g =>
    cases g with
    | named name =>
      simp only [Action.apply, openGroup] at h
      split at h <;> cases h
      exact hp.opened
    | numbered | flagged f =>
      cases h
      exact hp.opened
    | directive f =>
      cases h
      refine ⟨⟨hp.1.1, fun r hr => hp.1.2 r ?_⟩, hp.2⟩
      simpa [Progress.add, Scope.add] using hr
  | close =>
    simp only [Action.apply, closeGroup] at h
    split at h
    · cases h
    · next around outer ho =>
      cases h
      have hout := hp.2
      simp only [ho, List.mem_cons, forall_eq_or_imp] at hout
      refine ⟨hout.1.add ?_, hout.2⟩
      dsimp only
      split
      · exact hp.1.part
      · exact hp.1.part
  | stroke =>
    cases h
    exact ⟨hp.1.next, hp.2⟩
  | again min max =>
    simp only [Action.apply, repeatLast] at h
    split at h
    · next r items hi =>
      cases h
      have hitems := hp.1.2
      simp only [hi, List.mem_cons] at hitems
      refine ⟨⟨hp.1.1, fun s hs => ?_⟩, hp.2⟩
      simp only [List.mem_cons, Item.part.injEq] at hs
      rcases hs with rfl | hs
      · exact ⟨ha, hitems r (.inl rfl)⟩
      · exact hitems s (.inr hs)
    · cases h
  | part r =>
    cases h
    exact ⟨hp.1.add ha, hp.2⟩

/-- **So does a whole run**: what is read in the end can be made. -/
theorem ordered_run {text : List Char} {part : Part} (hp : p.Ordered) (h : p.run text = .ok part) :
    part.regex.Ordered := by
  fun_induction Progress.run p text with
  | case1 p text ht =>
    simp only [finish] at h
    split at h <;> cases h
    exact hp.1.part
  | case2 => cases h
  | case3 p text c rest ht q after hs hl ih =>
    obtain ⟨a, ha, hq⟩ := exists_of_step hs
    exact ih (ordered_apply hp (Action.ordered_read ha) hq) h

end Progress

end Pattern

end RowQuery
