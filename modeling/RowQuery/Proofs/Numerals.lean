import Mathlib
import RowQuery.Text.Decimal
/-!
# Numerals as texts

Decimal numerals are compared as texts, digit by digit from the left. Two of
one length are then in the order of their numbers (`toDigits_lt_iff_of_length`).
Of two lengths, what the longer one has too many does not count, except that
it is behind the shorter one when that is all they differ in
(`toDigits_lt_iff`): to cut digits off a numeral is to divide its number by a
power of ten (`exists_toDigits_eq`).
-/

namespace RowQuery

namespace Text

/-! ## Lists of different lengths -/

section Lists

variable {α : Type} [LinearOrder α] {as bs cs : List α} {x y : α}

/-- What a list has beyond the length of a second does not bring it before
that. -/
theorem append_lt_iff (h : bs.length ≤ as.length) : as ++ cs < bs ↔ as < bs := by
  induction as generalizing bs with
  | nil =>
    obtain rfl : bs = [] := List.length_eq_zero_iff.1 (Nat.le_zero.1 h)
    simp
  | cons a as ih =>
    cases bs with
    | nil => simp
    | cons b bs =>
      rw [List.cons_append, List.cons_lt_cons_iff, List.cons_lt_cons_iff,
        ih (Nat.le_of_succ_le_succ h)]

/-- But it brings it behind one that is equal so far. -/
theorem lt_append_iff (h : as.length ≤ bs.length) (hcs : cs ≠ []) :
    as < bs ++ cs ↔ as < bs ∨ as = bs := by
  induction as generalizing bs with
  | nil =>
    obtain ⟨c, cs, rfl⟩ := List.exists_cons_of_ne_nil hcs
    cases bs <;> simp
  | cons a as ih =>
    cases bs with
    | nil => exact absurd h (by simp)
    | cons b bs =>
      rw [List.cons_append, List.cons_lt_cons_iff, List.cons_lt_cons_iff,
        ih (Nat.le_of_succ_le_succ h), List.cons.injEq]
      tauto

/-- Of lists of one length the last items decide where all others are equal. -/
theorem concat_lt_concat_iff (h : as.length = bs.length) :
    as ++ [x] < bs ++ [y] ↔ as < bs ∨ as = bs ∧ x < y := by
  induction as generalizing bs with
  | nil =>
    obtain rfl : bs = [] := List.length_eq_zero_iff.1 h.symm
    simp [List.cons_lt_cons_iff]
  | cons a as ih =>
    cases bs with
    | nil => exact absurd h (by simp)
    | cons b bs =>
      rw [List.cons_append, List.cons_append, List.cons_lt_cons_iff, List.cons_lt_cons_iff,
        ih (Nat.succ.inj h), List.cons.injEq]
      tauto

end Lists

/-! ## Digits -/

variable {n p m k : ℕ}

/-- Digits are in the order of their values. -/
theorem digitChar_lt_iff (hp : p < 10) (hm : m < 10) :
    Nat.digitChar p < Nat.digitChar m ↔ p < m := by
  have hlt : Nat.digitChar p < Nat.digitChar m ↔
      (Nat.digitChar p).toNat < (Nat.digitChar m).toNat := Iff.rfl
  rw [hlt, Nat.toNat_digitChar_of_lt_ten hp, Nat.toNat_digitChar_of_lt_ten hm]
  omega

/-- A numeral belongs to one number. -/
theorem toDigits_inj : Nat.toDigits 10 p = Nat.toDigits 10 m ↔ p = m := by
  refine ⟨fun h => ?_, fun h => h ▸ rfl⟩
  have hread := congrArg (fun digits => Nat.ofDigitChars 10 digits 0) h
  simpa only [Nat.ofDigitChars_ten_toDigits] using hread

/-- The numeral of a number has its digits, and no zero before them. -/
theorem length_toDigits (hn : 0 < n) : (Nat.toDigits 10 n).length = (Nat.digits 10 n).length := by
  have hle (k : ℕ) (hk : 0 < k) :
      (Nat.toDigits 10 n).length ≤ k ↔ (Nat.digits 10 n).length ≤ k := by
    rw [Nat.length_toDigits_le_iff (by decide) hk, Nat.digits_length_le_iff (by decide)]
  have hdigits : 0 < (Nat.digits 10 n).length :=
    List.length_pos_iff.2 (Nat.digits_ne_nil_iff_ne_zero.2 hn.ne')
  exact le_antisymm ((hle _ hdigits).2 le_rfl) ((hle _ Nat.length_toDigits_pos).1 le_rfl)

/-- A number with as many digits is as large as this. -/
theorem pow_le_of_lt_length (h : k < (Nat.toDigits 10 n).length) (hn : 0 < n) : 10 ^ k ≤ n := by
  rcases Nat.eq_zero_or_pos k with rfl | hk
  · exact hn
  · have hnot := mt (Nat.length_toDigits_le_iff (b := 10) (n := n) (by decide) hk).2
    have := hnot (Nat.not_le_of_lt h)
    omega

/-- **To cut digits off is to divide**: a numeral is that of the quotient by a
power of ten, and as many digits behind it. The induction is on their number. -/
theorem exists_toDigits_eq (h : 10 ^ k ≤ n) :
    ∃ rest, Nat.toDigits 10 n = Nat.toDigits 10 (n / 10 ^ k) ++ rest ∧ rest.length = k := by
  induction k generalizing n with
  | zero => exact ⟨[], by simp, rfl⟩
  | succ k ih =>
    have hten : 10 ≤ n := by
      have := Nat.one_le_pow k 10 (by decide)
      rw [Nat.pow_succ] at h
      omega
    have hquotient : 10 ^ k ≤ n / 10 := by
      rw [Nat.pow_succ] at h
      omega
    obtain ⟨rest, hrest, hlen⟩ := ih hquotient
    refine ⟨rest ++ [Nat.digitChar (n % 10)], ?_, by simp [hlen]⟩
    rw [Nat.toDigits_of_base_le (by decide) hten, hrest, Nat.div_div_eq_div_mul,
      ← Nat.pow_succ', List.append_assoc]

/-- **Numerals of one length are in the order of their numbers.** The
induction is on the digits, from the last to the first. -/
theorem toDigits_lt_iff_of_length
    (h : (Nat.toDigits 10 p).length = (Nat.toDigits 10 m).length) :
    Nat.toDigits 10 p < Nat.toDigits 10 m ↔ p < m := by
  induction p using Nat.strong_induction_on generalizing m with
  | _ p ih =>
    rcases Nat.lt_or_ge p 10 with hp | hp <;> rcases Nat.lt_or_ge m 10 with hm | hm
    · rw [Nat.toDigits_of_lt_base hp, Nat.toDigits_of_lt_base hm]
      simpa [List.cons_lt_cons_iff] using digitChar_lt_iff hp hm
    · rw [Nat.toDigits_of_lt_base hp, Nat.toDigits_of_base_le (by decide) hm] at h
      have := Nat.length_toDigits_pos (b := 10) (n := m / 10)
      simp only [List.length_append, List.length_singleton] at h
      omega
    · rw [Nat.toDigits_of_lt_base hm, Nat.toDigits_of_base_le (by decide) hp] at h
      have := Nat.length_toDigits_pos (b := 10) (n := p / 10)
      simp only [List.length_append, List.length_singleton] at h
      omega
    · rw [Nat.toDigits_of_base_le (by decide) hp, Nat.toDigits_of_base_le (by decide) hm] at h ⊢
      have hlen : (Nat.toDigits 10 (p / 10)).length = (Nat.toDigits 10 (m / 10)).length := by
        simpa using h
      rw [concat_lt_concat_iff hlen, ih (p / 10) (by omega) hlen, toDigits_inj,
        digitChar_lt_iff (Nat.mod_lt p (by decide)) (Nat.mod_lt m (by decide))]
      omega

/-- **Numerals of any lengths**: the longer is cut to the length of the
shorter, and if they are equal then, the shorter comes first. -/
theorem toDigits_lt_iff (hp : 0 < p) (hm : 0 < m) {a b : ℕ} (ha : (Nat.digits 10 p).length = a)
    (hb : (Nat.digits 10 m).length = b) :
    Nat.toDigits 10 p < Nat.toDigits 10 m ↔
      p / 10 ^ (a - b) < m / 10 ^ (b - a) ∨ p / 10 ^ (a - b) = m / 10 ^ (b - a) ∧ a < b := by
  rw [← length_toDigits hp] at ha
  rw [← length_toDigits hm] at hb
  have ha' := Nat.length_toDigits_pos (b := 10) (n := p)
  have hb' := Nat.length_toDigits_pos (b := 10) (n := m)
  rcases Nat.lt_or_ge a b with hab | hab
  · obtain ⟨rest, hrest, hlen⟩ :=
      exists_toDigits_eq (pow_le_of_lt_length (k := b - a) (by omega) hm)
    have hcut : (Nat.toDigits 10 p).length = (Nat.toDigits 10 (m / 10 ^ (b - a))).length := by
      have := congrArg List.length hrest
      rw [List.length_append] at this
      omega
    have hne : rest ≠ [] := List.length_pos_iff.1 (by omega)
    rw [hrest, lt_append_iff hcut.le hne, toDigits_lt_iff_of_length hcut, toDigits_inj,
      Nat.sub_eq_zero_of_le hab.le, Nat.pow_zero, Nat.div_one]
    simp [hab]
  · obtain ⟨rest, hrest, hlen⟩ :=
      exists_toDigits_eq (pow_le_of_lt_length (k := a - b) (by omega) hp)
    have hcut : (Nat.toDigits 10 (p / 10 ^ (a - b))).length = (Nat.toDigits 10 m).length := by
      have := congrArg List.length hrest
      rw [List.length_append] at this
      omega
    rw [hrest, append_lt_iff hcut.ge, toDigits_lt_iff_of_length hcut,
      Nat.sub_eq_zero_of_le hab, Nat.pow_zero, Nat.div_one]
    have hnot : ¬ a < b := Nat.not_lt.2 hab
    simp [hnot]

end Text

end RowQuery
