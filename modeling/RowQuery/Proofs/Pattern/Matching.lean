import Mathlib.Data.Fintype.Pigeonhole
import Mathlib.Data.Nat.Bitwise
import Mathlib.Logic.Function.Iterate
import RowQuery.Pattern.Matching
/-!
# Matching finds the stretches

`Regex.reach` works on all places of a text at once and never looks at a
single match. That it finds what `Regex.Spans` says (`Regex.carries_reach`)
goes through `Carries`: a function on sets of places stands for a relation
between places. Repetitions are the only difficulty. They stop when nothing
new is found, or after as many rounds as the text has places; a longer way
from one place to another visits some place twice and can be cut short
(`Steps.shorten`).
-/

namespace RowQuery

namespace Pattern

/-! ## Ways through places -/

/-- A relation applied a number of times in a row. -/
def Steps (R : ℕ → ℕ → Prop) : ℕ → ℕ → ℕ → Prop
  | 0, i, j => i = j
  | d + 1, i, j => ∃ k, R i k ∧ Steps R d k j

namespace Steps

variable {R : ℕ → ℕ → Prop} {a b i j : ℕ}

@[simp] theorem zero_iff : Steps R 0 i j ↔ i = j := Iff.rfl

theorem succ_iff : Steps R (a + 1) i j ↔ ∃ k, R i k ∧ Steps R a k j := Iff.rfl

/-- Ways are put together, and taken apart after any number of steps. -/
theorem add_iff : Steps R (a + b) i j ↔ ∃ k, Steps R a i k ∧ Steps R b k j := by
  induction a generalizing i with
  | zero => simp
  | succ a ih =>
    rw [Nat.add_right_comm, succ_iff]
    constructor
    · rintro ⟨k, hik, hkj⟩
      obtain ⟨l, hkl, hlj⟩ := ih.1 hkj
      exact ⟨l, ⟨k, hik, hkl⟩, hlj⟩
    · rintro ⟨l, ⟨k, hik, hkl⟩, hlj⟩
      exact ⟨k, hik, ih.2 ⟨l, hkl, hlj⟩⟩

/-- A way does not leave a set that no single step leaves. -/
theorem of_closed {p : ℕ → Prop} (hp : ∀ {x y}, p x → R x y → p y) (hi : p i)
    (h : Steps R a i j) : p j := by
  induction a generalizing i with
  | zero => exact h ▸ hi
  | succ a ih =>
    obtain ⟨k, hik, hkj⟩ := h
    exact ih (hp hi hik) hkj

/-- **A way need not be longer than there are places**: a shortest one
visits no place twice. -/
theorem shorten {size : ℕ} (hR : ∀ {x y}, x < size → R x y → y < size) (hi : i < size)
    (h : Steps R a i j) : ∃ d ≤ min a size, Steps R d i j := by
  classical
  have hex : ∃ d, Steps R d i j := ⟨a, h⟩
  refine ⟨Nat.find hex, Nat.le_min.2 ⟨Nat.find_min' hex h, ?_⟩, Nat.find_spec hex⟩
  by_contra hlong
  -- the places that a shortest way visits, by the number of steps to them
  have hvisit : ∀ n : Fin (size + 1), ∃ k, Steps R n i k ∧ Steps R (Nat.find hex - n) k j := by
    intro n
    refine add_iff.1 ?_
    rw [Nat.add_sub_cancel' (by omega)]
    exact Nat.find_spec hex
  choose visit hto hfrom using hvisit
  have hlt (n : Fin (size + 1)) : visit n < size := of_closed (p := (· < size)) hR hi (hto n)
  obtain ⟨m, n, hne, hsame⟩ :=
    Fintype.exists_ne_map_eq_of_card_lt (fun n => (⟨visit n, hlt n⟩ : Fin size)) (by simp)
  have hsame : visit m = visit n := congrArg Fin.val hsame
  -- what lies between two visits of one place can be left out
  have hcut {x y : Fin (size + 1)} (hxy : (x : ℕ) < y) (hv : visit x = visit y) : False := by
    refine Nat.find_min hex ?_ (add_iff.2 ⟨visit x, hto x, hv ▸ hfrom y⟩)
    omega
  rcases Nat.lt_or_gt_of_ne (Fin.val_ne_of_ne hne) with hmn | hnm
  · exact hcut hmn hsame
  · exact hcut hnm hsame.symm

end Steps

/-! ## Stretches of repetitions -/

namespace Regex

section Spans

variable {α : Type} {admits : α → ℕ → ℕ → Prop} {r s : Regex α} {i j : ℕ}

@[simp] theorem spans_empty_iff : Spans admits empty i j ↔ i = j := by
  constructor
  · rintro ⟨⟩
    rfl
  · rintro rfl
    exact .empty

@[simp] theorem spans_atom_iff {a : α} : Spans admits (atom a) i j ↔ admits a i j := by
  constructor
  · rintro ⟨⟩
    assumption
  · exact .atom

@[simp] theorem spans_cat_iff :
    Spans admits (cat r s) i j ↔ ∃ k, Spans admits r i k ∧ Spans admits s k j := by
  constructor
  · rintro ⟨⟩
    exact ⟨_, ‹_›, ‹_›⟩
  · rintro ⟨k, hr, hs⟩
    exact .cat hr hs

@[simp] theorem spans_alt_iff :
    Spans admits (alt r s) i j ↔ Spans admits r i j ∨ Spans admits s i j := by
  constructor
  · rintro (⟨⟩ | ⟨⟩)
    · exact .inl ‹_›
    · exact .inr ‹_›
  · rintro (hr | hs)
    · exact .altLeft hr
    · exact .altRight hs

@[simp] theorem spans_captured_iff : Spans admits (captured r) i j ↔ Spans admits r i j := by
  constructor
  · rintro ⟨⟩
    assumption
  · exact .captured

/-- A repetition matches where some allowed number of rounds leads. -/
theorem spans_repeated_iff {min : ℕ} {max : Option ℕ} :
    Spans admits (repeated r min max) i j ↔
      ∃ d, min ≤ d ∧ (∀ k, max = some k → d ≤ k) ∧ Steps (Spans admits r) d i j := by
  constructor
  · intro h
    -- the counts of what is left of a repetition differ from round to round
    generalize he : repeated r min max = whole at h
    induction h generalizing min max with
    | enough =>
      cases he
      exact ⟨0, Nat.le_refl 0, fun k _ => Nat.zero_le k, rfl⟩
    | more hmax hone _ _ ih =>
      cases he
      obtain ⟨d, hmin, hle, hsteps⟩ := ih rfl
      refine ⟨d + 1, by omega, ?_, _, hone, hsteps⟩
      rintro k rfl
      have hk : k ≠ 0 := fun hk => hmax (hk ▸ rfl)
      have := hle (k - 1) rfl
      omega
    | empty | atom | cat | altLeft | altRight | captured => cases he
  · rintro ⟨d, hmin, hle, hsteps⟩
    induction d generalizing i min max with
    | zero =>
      obtain rfl : min = 0 := by omega
      obtain rfl : i = j := hsteps
      exact .enough
    | succ d ih =>
      obtain ⟨k, hone, hrest⟩ := hsteps
      refine .more (fun h0 => by simpa using hle 0 h0) hone (ih (by omega) ?_ hrest)
      intro m hm
      obtain ⟨k, rfl, rfl⟩ := Option.map_eq_some_iff.1 hm
      have := hle k rfl
      omega

end Spans

/-- A match of an expression ends in the text if it starts there. -/
theorem Spans.le_length {text : List Char} {r : Regex Atom} {i j : ℕ}
    (h : Spans (Atom.admits text) r i j) (hi : i ≤ text.length) : j ≤ text.length := by
  induction h with
  | empty | enough => exact hi
  | @atom a i j ha =>
    cases a with
    | chars s =>
      obtain ⟨⟨c, hc, -⟩, rfl⟩ := ha
      exact (List.getElem?_eq_some_iff.1 hc).1
    | look l =>
      obtain ⟨-, -, rfl⟩ := ha
      exact hi
  | cat _ _ ihr ihs => exact ihs (ihr hi)
  | altLeft _ ih | altRight _ ih | captured _ ih => exact ih hi
  | more _ _ _ ihr ihs => exact ihs (ihr hi)

/-- Whether no repetition asks for more rounds than it allows. -/
def Ordered {α : Type} : Regex α → Prop
  | empty => True
  | atom _ => True
  | cat r s => r.Ordered ∧ s.Ordered
  | alt r s => r.Ordered ∧ s.Ordered
  | repeated r min max => (∀ k, max = some k → min ≤ k) ∧ r.Ordered
  | captured r => r.Ordered

end Regex

/-! ## Sets of places as numbers -/

/-- Bit `i` of a set of places is the answer at `i`. -/
theorem testBit_placeSet (answers : List Bool) (i : ℕ) :
    (placeSet answers).testBit i = answers[i]?.getD false := by
  induction answers generalizing i with
  | nil => simp [placeSet]
  | cons b answers ih =>
    have hbit : placeSet (b :: answers) = Nat.bit b (placeSet answers) := by
      rw [Nat.bit_val]
      rfl
    rw [hbit]
    cases i with
    | zero => simp
    | succ i => simp [Nat.testBit_bit_succ, ih]

/-- A set of places in a text of `size` of them. -/
theorem lt_of_testBit {size m i : ℕ} (hm : m < 2 ^ size) (hi : m.testBit i) : i < size := by
  by_contra hge
  have hpow : 2 ^ size ≤ 2 ^ i := Nat.pow_le_pow_right Nat.two_pos (Nat.not_lt.1 hge)
  rw [Nat.testBit_lt_two_pow (Nat.lt_of_lt_of_le hm hpow)] at hi
  cases hi

/-- A function on sets of places that takes each place where a relation
leads. No step leads out of the `size` places of the text. -/
structure Carries (size : ℕ) (R : ℕ → ℕ → Prop) (f : ℕ → ℕ) : Prop where
  /-- The relation leads to places only. -/
  lt : ∀ {i j}, i < size → R i j → j < size
  /-- The function finds what the relation leads to. -/
  testBit_iff : ∀ {m j}, m < 2 ^ size → ((f m).testBit j ↔ ∃ i, m.testBit i ∧ R i j)

namespace Carries

variable {size : ℕ} {R S : ℕ → ℕ → Prop} {f g : ℕ → ℕ}

theorem lt_two_pow (h : Carries size R f) {m : ℕ} (hm : m < 2 ^ size) : f m < 2 ^ size := by
  refine Nat.lt_pow_two_of_testBit _ fun j hj => ?_
  rw [← Bool.not_eq_true, h.testBit_iff hm]
  rintro ⟨i, hi, hR⟩
  exact Nat.not_lt.2 hj (h.lt (lt_of_testBit hm hi) hR)

/-- The same function stands for the same relation. -/
theorem congr (h : Carries size R f) (hiff : ∀ i j, R i j ↔ S i j) : Carries size S f := by
  obtain rfl : R = S := funext fun i => funext fun j => propext (hiff i j)
  exact h

/-- No step at all. -/
theorem refl (size : ℕ) : Carries size (· = ·) id :=
  ⟨fun hi h => h ▸ hi, by simp⟩

/-- One relation after another. -/
theorem comp (hf : Carries size R f) (hg : Carries size S g) :
    Carries size (fun i j => ∃ k, R i k ∧ S k j) (g ∘ f) where
  lt := by
    rintro i j hi ⟨k, hik, hkj⟩
    exact hg.lt (hf.lt hi hik) hkj
  testBit_iff {m j} hm := by
    rw [Function.comp, hg.testBit_iff (hf.lt_two_pow hm)]
    constructor
    · rintro ⟨k, hk, hkj⟩
      obtain ⟨i, hi, hik⟩ := (hf.testBit_iff hm).1 hk
      exact ⟨i, hi, k, hik, hkj⟩
    · rintro ⟨i, hi, k, hik, hkj⟩
      exact ⟨k, (hf.testBit_iff hm).2 ⟨i, hi, hik⟩, hkj⟩

/-- Either of two relations. -/
theorem or (hf : Carries size R f) (hg : Carries size S g) :
    Carries size (fun i j => R i j ∨ S i j) fun m => f m ||| g m where
  lt := by
    rintro i j hi (hR | hS)
    · exact hf.lt hi hR
    · exact hg.lt hi hS
  testBit_iff {m j} hm := by
    rw [Nat.testBit_or, Bool.or_eq_true, hf.testBit_iff hm, hg.testBit_iff hm]
    simp only [and_or_left, exists_or]

/-- The places that so many rounds lead to. -/
theorem iterate (hf : Carries size R f) (k : ℕ) : Carries size (Steps R k) f^[k] := by
  induction k with
  | zero => exact refl size
  | succ k ih => exact hf.comp ih

end Carries

/-- A step that changes nothing would change nothing later either. -/
theorem iterate_eq (f : ℕ → ℕ) (k m : ℕ) : iterate f k m = f^[k] m := by
  induction k generalizing m with
  | zero => rfl
  | succ k ih =>
    rw [Pattern.iterate, Function.iterate_succ_apply]
    split
    · next hsame => rw [hsame, Function.iterate_fixed hsame]
    · exact ih _

/-- The places that are found, without those seen. -/
theorem testBit_new (found seen j : ℕ) :
    (found ^^^ (found &&& seen)).testBit j ↔ found.testBit j ∧ ¬ seen.testBit j := by
  rw [Nat.testBit_xor, Nat.testBit_and]
  cases found.testBit j <;> cases seen.testBit j <;> simp

namespace Carries

variable {size : ℕ} {R : ℕ → ℕ → Prop} {f : ℕ → ℕ}

/-- **Spreading finds all that up to `k` steps lead to.** The invariant of
the loop is that only the fresh places can lead to a place not yet seen. -/
theorem testBit_spread (hf : Carries size R f) (k : ℕ) {seen fresh : ℕ} (hseen : seen < 2 ^ size)
    (hfresh : ∀ {i}, fresh.testBit i → seen.testBit i)
    (hold : ∀ {i j}, seen.testBit i → ¬ fresh.testBit i → R i j → seen.testBit j) {j : ℕ} :
    (spread f k seen fresh).testBit j ↔ ∃ i d, d ≤ k ∧ seen.testBit i ∧ Steps R d i j := by
  induction k generalizing seen fresh with
  | zero =>
    rw [spread]
    constructor
    · intro hj
      exact ⟨j, 0, Nat.le_refl 0, hj, rfl⟩
    · rintro ⟨i, d, hd, hi, hsteps⟩
      obtain rfl : d = 0 := by omega
      exact hsteps ▸ hi
  | succ k ih =>
    have hlt : fresh < 2 ^ size := Nat.lt_pow_two_of_testBit _ fun i hi => by
      rw [← Bool.not_eq_true]
      exact fun hbit => Nat.not_lt.2 hi (lt_of_testBit hseen (hfresh hbit))
    have hfound {j : ℕ} : (f fresh).testBit j ↔ ∃ i, fresh.testBit i ∧ R i j := hf.testBit_iff hlt
    set new := f fresh ^^^ (f fresh &&& seen) with hnew
    have hbit {i : ℕ} : new.testBit i ↔ (f fresh).testBit i ∧ ¬ seen.testBit i :=
      testBit_new _ _ _
    have hjoin {i : ℕ} : (seen ||| new).testBit i ↔ seen.testBit i ∨ new.testBit i := by
      rw [Nat.testBit_or, Bool.or_eq_true]
    -- what one step leads to from a place seen is seen or new
    have hstep {i j : ℕ} (hi : seen.testBit i) (hR : R i j) : (seen ||| new).testBit j := by
      rw [hjoin]
      by_cases hj : seen.testBit j
      · exact .inl hj
      · by_cases hfi : fresh.testBit i
        · exact .inr (hbit.2 ⟨hfound.2 ⟨i, hfi, hR⟩, hj⟩)
        · exact .inl (hold hi hfi hR)
    rw [spread, ← hnew]
    split
    · next hzero =>
      -- nothing is new, so no step leaves the places seen
      constructor
      · intro hj
        exact ⟨j, 0, Nat.zero_le _, hj, rfl⟩
      · rintro ⟨i, d, -, hi, hsteps⟩
        refine Steps.of_closed (p := (seen.testBit ·)) ?_ hi hsteps
        intro x y hx hR
        simpa [hzero] using hstep hx hR
    · have hnext : seen ||| new < 2 ^ size := by
        refine Nat.or_lt_two_pow hseen (Nat.lt_pow_two_of_testBit _ fun i hi => ?_)
        rw [← Bool.not_eq_true, hbit]
        exact fun h => Nat.not_lt.2 hi (lt_of_testBit (hf.lt_two_pow hlt) h.1)
      rw [ih hnext (fun hi => hjoin.2 (.inr hi)) fun hi hni hR =>
        hstep ((hjoin.1 hi).resolve_right hni) hR]
      constructor
      · rintro ⟨i, d, hd, hi, hsteps⟩
        rcases hjoin.1 hi with hi | hi
        · exact ⟨i, d, by omega, hi, hsteps⟩
        · obtain ⟨x, hx, hR⟩ := hfound.1 (hbit.1 hi).1
          exact ⟨x, d + 1, by omega, hfresh hx, i, hR, hsteps⟩
      · rintro ⟨i, d, hd, hi, hsteps⟩
        cases d with
        | zero => exact ⟨i, 0, Nat.zero_le k, hjoin.2 (.inl hi), hsteps⟩
        | succ d =>
          obtain ⟨x, hR, hrest⟩ := hsteps
          exact ⟨x, d, by omega, hstep hi hR, hrest⟩

end Carries

/-! ## Atoms -/

/-- What stands on both sides of a place. -/
theorem getElem?_sides (text : List Char) (i : ℕ) :
    ((none :: text.map some).zip (text.map some ++ [none]))[i]? =
      if i ≤ text.length then some (if i = 0 then none else text[i - 1]?, text[i]?) else none := by
  have hbefore : (none :: text.map some)[i]? =
      if i ≤ text.length then some (if i = 0 then none else text[i - 1]?) else none := by
    cases i with
    | zero => simp
    | succ i =>
      rcases Nat.lt_or_ge i text.length with hi | hi
      · rw [if_pos (Nat.succ_le_of_lt hi)]
        simp [hi]
      · rw [if_neg (Nat.not_le.2 (Nat.lt_succ_of_le hi))]
        simp [hi]
  have hafter : (text.map some ++ [none])[i]? =
      if i ≤ text.length then some text[i]? else none := by
    rcases Nat.lt_trichotomy i text.length with hi | rfl | hi
    · rw [if_pos (Nat.le_of_lt hi), List.getElem?_append_left (by simpa using hi)]
      simp [hi]
    · simp
    · rw [if_neg (Nat.not_le.2 hi)]
      exact List.getElem?_eq_none (by simpa using Nat.succ_le_of_lt hi)
  rw [List.zip, List.getElem?_zipWith, hbefore, hafter]
  by_cases hi : i ≤ text.length <;> simp [hi]

/-- The gate of an atom opens at the places where a match starts. -/
theorem Atom.admits_iff {text : List Char} {a : Atom} {i j : ℕ} :
    a.admits text i j ↔ (a.gate text).places.testBit i ∧ j = i + (a.gate text).width := by
  cases a with
  | chars s =>
    rw [admits, gate, testBit_placeSet, List.getElem?_map]
    cases text[i]? <;> simp
  | look l =>
    rw [admits, gate, testBit_placeSet, List.getElem?_map, getElem?_sides]
    by_cases hi : i ≤ text.length <;> simp [hi]

/-! ## Expressions -/

namespace Regex

variable {text : List Char}

/-- The gate of an atom as a step. -/
theorem carries_atom (a : Atom) :
    Carries (text.length + 1) (a.admits text)
      fun m => (m &&& (a.gate text).places) <<< (a.gate text).width where
  lt hi h := Nat.lt_succ_of_le (Spans.le_length (.atom h) (Nat.le_of_lt_succ hi))
  testBit_iff {m j} _ := by
    rw [Nat.testBit_shiftLeft, Nat.testBit_and]
    simp only [Atom.admits_iff, Bool.and_eq_true, decide_eq_true_eq]
    constructor
    · rintro ⟨hj, hm, hplaces⟩
      exact ⟨j - (a.gate text).width, hm, hplaces, by omega⟩
    · rintro ⟨i, hm, hplaces, rfl⟩
      simp [hm, hplaces]

/-- The rounds of a repetition: first those it asks for, then those it
allows, as far as they lead to places not seen before. -/
theorem carries_repeated {r : Regex Atom} {g : Regex Gate} {size min : ℕ} {max : Option ℕ}
    (hr : Carries size (Spans (Atom.admits text) r) (g.reach size))
    (hle : ∀ k, max = some k → min ≤ k) :
    Carries size (Spans (Atom.admits text) (repeated r min max))
      ((repeated g min max).reach size) where
  lt {i j} hi h := by
    obtain ⟨d, -, -, hsteps⟩ := spans_repeated_iff.1 h
    exact (hr.iterate d).lt hi hsteps
  testBit_iff {m j} hm := by
    have hentered : iterate (g.reach size) min m < 2 ^ size := by
      rw [iterate_eq]
      exact (hr.iterate min).lt_two_pow hm
    have hbit {x : ℕ} := (hr.iterate min).testBit_iff (j := x) hm
    have hreach : (repeated g min max).reach size m =
        spread (g.reach size) (max.elim size fun k => Nat.min size (k - min))
          (iterate (g.reach size) min m) (iterate (g.reach size) min m) := by
      cases max <;> rfl
    rw [hreach, hr.testBit_spread _ hentered id fun hi hni => absurd hi hni, iterate_eq]
    simp only [spans_repeated_iff]
    constructor
    · rintro ⟨x, d, hd, hx, hsteps⟩
      obtain ⟨i, hi, hmin⟩ := hbit.1 hx
      refine ⟨i, hi, min + d, Nat.le_add_right _ _, ?_, Steps.add_iff.2 ⟨x, hmin, hsteps⟩⟩
      rintro k rfl
      have hk := hle k rfl
      have hd' : d ≤ k - min := Nat.le_trans hd (Nat.min_le_right _ _)
      omega
    · rintro ⟨i, hi, n, hmin, hmax, hsteps⟩
      -- the rounds beyond those asked for are as many as there are places
      obtain ⟨d, rfl⟩ := Nat.exists_eq_add_of_le hmin
      obtain ⟨x, hto, hfrom⟩ := Steps.add_iff.1 hsteps
      have hx : x < size := (hr.iterate min).lt (lt_of_testBit hm hi) hto
      obtain ⟨e, he, hshort⟩ := Steps.shorten hr.lt hx hfrom
      have hed := Nat.le_trans he (Nat.min_le_left _ _)
      have hes := Nat.le_trans he (Nat.min_le_right _ _)
      refine ⟨x, e, ?_, hbit.2 ⟨i, hi, hto⟩, hshort⟩
      cases max with
      | none => exact hes
      | some k =>
        have hk := hmax k rfl
        exact Nat.le_min.2 ⟨hes, by omega⟩

/-- **An expression takes each place where a match of it leads.** -/
theorem carries_reach {r : Regex Atom} (hr : r.Ordered) :
    Carries (text.length + 1) (Spans (Atom.admits text) r)
      ((r.map (Atom.gate text)).reach (text.length + 1)) := by
  induction r with
  | empty => exact (Carries.refl _).congr fun _ _ => spans_empty_iff.symm
  | atom a => exact (carries_atom a).congr fun _ _ => spans_atom_iff.symm
  | cat r s ihr ihs => exact ((ihr hr.1).comp (ihs hr.2)).congr fun _ _ => spans_cat_iff.symm
  | alt r s ihr ihs => exact ((ihr hr.1).or (ihs hr.2)).congr fun _ _ => spans_alt_iff.symm
  | repeated r min max ih => exact carries_repeated (ih hr.2) hr.1
  | captured r ih => exact (ih hr).congr fun _ _ => spans_captured_iff.symm

/-- **An expression occurs in a text where it matches a stretch of it.** -/
theorem occursIn_iff {r : Regex Atom} (hr : r.Ordered) :
    r.occursIn text = true ↔ ∃ i j, i ≤ text.length ∧ Spans (Atom.admits text) r i j := by
  have hall : Nat.pow 2 (text.length + 1) - 1 < 2 ^ (text.length + 1) :=
    Nat.sub_one_lt (Nat.pow_pos Nat.two_pos).ne'
  have hbit (i : ℕ) : (Nat.pow 2 (text.length + 1) - 1).testBit i ↔ i ≤ text.length := by
    rw [← Nat.lt_succ_iff]
    exact (congrArg (· = true) (Nat.testBit_two_pow_sub_one _ i)).to_iff.trans decide_eq_true_iff
  rw [occursIn, decide_eq_true_eq]
  constructor
  · intro hne
    obtain ⟨j, hj⟩ := Nat.exists_testBit_of_ne_zero hne
    obtain ⟨i, hi, hspans⟩ := ((carries_reach hr).testBit_iff hall).1 hj
    exact ⟨i, j, (hbit i).1 hi, hspans⟩
  · rintro ⟨i, j, hi, hspans⟩ hzero
    have hj := ((carries_reach hr).testBit_iff hall).2 ⟨i, (hbit i).2 hi, hspans⟩
    rw [hzero] at hj
    simp at hj

end Regex

end Pattern

end RowQuery
