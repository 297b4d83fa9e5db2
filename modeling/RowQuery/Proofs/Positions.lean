import Mathlib
import RowQuery.Proofs.Naming
import RowQuery.Proofs.Numerals
import RowQuery.Proofs.Stages
import RowQuery.Proofs.TotalOrder
/-!
# The place of a row, compared as a text

The place of a row is counted from one and compared as its numeral. A query
that compares it with a text reads no cell, and needs no header
(`ofText_placing`). With a numeral as the text, the rows selected are told by
arithmetic of the two numbers, in the order of numerals (`placed_in_order`); by
equality, there is one row at most.
-/

namespace RowQuery

namespace Query

/-- The query that compares the place of a row with a text. -/
def placing (op : Operator) (value : String) : String :=
  "$0 " ++ op.symbol ++ " " ++ Text.quoted '\'' value

variable {op : Operator} {value : String} {h : Header} {p m : ℕ}

/-! ## The query -/

/-- It is one comparison. -/
theorem read_placing (op : Operator) (value : String) :
    read (placing op value) = .ok [[.comparison ⟨.position, op, .text value⟩]] := by
  have hwell : Comparison.WellFormed ⟨.position, op, .text value⟩ := ⟨trivial, trivial⟩
  have htext : (placing op value).toList =
      spaced (fun _ => [' ']) (Comparison.tokens ⟨.position, op, .text value⟩) := by
    simp [placing, Comparison.tokens, spaced, Token.write, Reference.token, Operand.token,
      Text.quoted, Text.decimal]
  exact (htext ▸ hwell.isPhrase).terms.query.read_eq rfl

/-- In a numeral there is nothing to escape. -/
theorem placing_numeral (op : Operator) (n : ℕ) :
    placing op (toString n) = "$0 " ++ op.symbol ++ " '" ++ toString n ++ "'" := by
  have hplain : ∀ c ∈ (toString n).toList, ¬ (c = '\'' ∨ c = '\\') := by
    intro c hc hspecial
    have hmem : c ∈ List.replicate 0 '0' ++ (Text.decimal n).toList := hc
    have hdigit := Text.isDigit_of_mem_decimal hmem
    rcases hspecial with rfl | rfl <;> cases hdigit
  have hescape : Text.escape '\'' (toString n).toList = (toString n).toList := by
    rw [Text.escape, List.flatMap_congr (g := fun c => [c]) fun c hc => if_neg (hplain c hc)]
    exact List.flatMap_singleton' _
  rw [placing, Text.quoted, hescape]
  simp [← String.toList_inj]

/-- **It selects by the numeral of the place**, whatever the columns are. -/
theorem ofText_placing [Pattern.Engine] (op : Operator) (hop : op ≠ .regex) (value : String)
    (h : Header) :
    ∃ s, Selection.ofText (placing op value) h = .ok s ∧ ∀ row ordinal,
      s.selects row ordinal = true ↔ op.Relates (some (toString (ordinal + 1))) (some value) := by
  have hplace : Operand.Resolves h (.reference .position) := ⟨.position, rfl⟩
  obtain ⟨p, hp⟩ := Comparison.exists_predicate (y := .text value) hplace trivial hop
  refine ⟨⟨placing op value, some p⟩, Selection.ofText_comparison (read_placing op value) hp,
    fun row ordinal => ?_⟩
  have hmatches : Comparison.Matches h row ordinal ⟨.position, op, .text value⟩ ↔
      op.Relates (some (toString (ordinal + 1))) (some value) :=
    Comparison.matches_iff (.reference rfl .position) .text
  rw [← hmatches, Comparison.Matches, hp]
  simp [Selection.selects]

/-- With a numeral for the text. -/
theorem ofText_numeral [Pattern.Engine] (op : Operator) (hop : op ≠ .regex) (m : ℕ)
    (h : Header) :
    ∃ s, Selection.ofText ("$0 " ++ op.symbol ++ " '" ++ toString m ++ "'") h = .ok s ∧
      ∀ row ordinal, s.selects row ordinal = true ↔
        op.Relates (some (toString (ordinal + 1))) (some (toString m)) := by
  rw [← placing_numeral]
  exact ofText_placing op hop (toString m) h

/-! ## Numerals as cells -/

theorem numeral_eq_iff : (some (toString p) : Cell) = some (toString m) ↔ p = m := by
  rw [Option.some_inj, ← String.toList_inj, Nat.toString_eq_ofList_toDigits,
    Nat.toString_eq_ofList_toDigits, String.toList_ofList, String.toList_ofList, Text.toDigits_inj]

theorem numeral_lt_iff :
    (some (toString p) : Cell) < some (toString m) ↔ Nat.toDigits 10 p < Nat.toDigits 10 m := by
  rw [Option.some_lt_some, String.lt_iff_toList_lt, Nat.toString_eq_ofList_toDigits,
    Nat.toString_eq_ofList_toDigits, String.toList_ofList, String.toList_ofList]

/-- **The numerals behind that of three**: of one digit those of four to nine,
and of more digits those that start with three or more. -/
theorem three_lt_iff (hp : 0 < p) :
    Nat.toDigits 10 3 < Nat.toDigits 10 p ↔
      (4 ≤ p ∧ p ≤ 9) ∨ ∃ k, 1 ≤ k ∧ 3 * 10 ^ k ≤ p ∧ p ≤ 10 ^ (k + 1) - 1 := by
  have hlength (k : ℕ) := Nat.digits_length_le_iff (b := 10) (k := k) (by decide) p
  obtain ⟨k, hk⟩ : ∃ k, (Nat.digits 10 p).length = k + 1 :=
    Nat.exists_eq_succ_of_ne_zero fun hzero => by
      have hlt := (hlength 0).1 hzero.le
      omega
  rw [Text.toDigits_lt_iff (by decide) hp (a := 1) (by simp) hk]
  have hlow : 10 ^ k ≤ p := Nat.not_lt.1 fun hlt => by
    have hle := (hlength k).2 hlt
    omega
  have hhigh : p < 10 ^ (k + 1) := (hlength (k + 1)).1 hk.le
  have hone : 1 - (k + 1) = 0 := by omega
  rw [hone, Nat.add_sub_cancel, Nat.pow_zero, Nat.div_one]
  rcases Nat.eq_zero_or_pos k with rfl | hk
  · -- one digit
    have hnone : ¬ ∃ k, 1 ≤ k ∧ 3 * 10 ^ k ≤ p ∧ p ≤ 10 ^ (k + 1) - 1 := by
      rintro ⟨j, hj, hge, -⟩
      have hten := Nat.pow_le_pow_right (n := 10) (by decide) hj
      omega
    simp only [hnone, or_false]
    omega
  · -- the first digit of several is the quotient by the power below the number
    have hfirst : 3 ≤ p / 10 ^ k ↔ 3 * 10 ^ k ≤ p :=
      Nat.le_div_iff_mul_le (Nat.pow_pos (by decide))
    have hten := Nat.pow_le_pow_right (n := 10) (by decide) hk
    constructor
    · intro h
      exact .inr ⟨k, hk, hfirst.1 (by omega), Nat.le_pred_of_lt hhigh⟩
    · rintro (h | ⟨j, -, hge, hle⟩)
      · omega
      · have hpos := Nat.pow_pos (n := j + 1) (show 0 < 10 by decide)
        have hjk : j < k + 1 := (Nat.pow_lt_pow_iff_right (a := 10) (by decide)).1 (by omega)
        have hkj : k < j + 1 := (Nat.pow_lt_pow_iff_right (a := 10) (by decide)).1 (by omega)
        obtain rfl : j = k := by omega
        have hthree := hfirst.2 hge
        omega

end Query

namespace Selection

open Query (placing)

variable {s : Selection} {value : String}

/-- **A selection by one place keeps one row at most.** Among the rows kept the
indices increase, and there is no second index with the same numeral. -/
theorem length_apply_le_one
    (hs : ∀ row ordinal, s.selects row ordinal = true ↔ toString (ordinal + 1) = value)
    (rows : List Row) : (s.apply rows).length ≤ 1 := by
  have hkeeps := s.keeps_apply rows
  have hvalue : ∀ i ∈ (s.selected rows).map Prod.snd, toString (i + 1) = value := by
    intro i hi
    obtain ⟨row, -, hrow⟩ := (hkeeps.mem_iff i).1 hi
    exact (hs row i).1 hrow
  have hlen : (s.apply rows).length = ((s.selected rows).map Prod.snd).length := by
    rw [apply, List.length_map, List.length_map]
  rw [hlen]
  rcases hindices : (s.selected rows).map Prod.snd with - | ⟨i, - | ⟨j, rest⟩⟩
  · exact Nat.zero_le 1
  · exact le_rfl
  · exfalso
    have hordered := hkeeps.ordered
    rw [hindices] at hordered hvalue
    have hlt : i < j := (List.pairwise_cons.1 hordered).1 j List.mem_cons_self
    have hsame : toString (i + 1) = toString (j + 1) :=
      (hvalue i List.mem_cons_self).trans (hvalue j (by simp)).symm
    have heq := Query.numeral_eq_iff.1 (congrArg some hsame)
    omega

/-- **The place of a row is in the order of numerals.** Take a number from one
on, and the place of a row, counted from one; the query that compares the place
with the numeral is read under every header, and looks at no cell. By equality
it selects where the two are the same number. By less it selects where, the
longer of the two numerals being cut to the length of the shorter, the place
has the lesser number, or the same number and fewer digits; and by greater
where neither is so. The places behind three are thus those from four to nine,
and for any number of digits from two on those from thirty, three hundred and
so on. By equality with any text one row at most is kept of any rows: the one
whose place has the text for its numeral. -/
theorem placed_in_order [Pattern.Engine] (h : Header) :
    (∀ m, 1 ≤ m → ∃ equal less greater,
      ofText ("$0 = '" ++ toString m ++ "'") h = .ok equal ∧
      ofText ("$0 < '" ++ toString m ++ "'") h = .ok less ∧
      ofText ("$0 > '" ++ toString m ++ "'") h = .ok greater ∧
      ∀ row ordinal p a b, p = ordinal + 1 → a = (Nat.digits 10 p).length →
        b = (Nat.digits 10 m).length →
        (equal.selects row ordinal = true ↔ p = m) ∧
        (less.selects row ordinal = true ↔
          p / 10 ^ (a - b) < m / 10 ^ (b - a) ∨ p / 10 ^ (a - b) = m / 10 ^ (b - a) ∧ a < b) ∧
        (greater.selects row ordinal = true ↔
          equal.selects row ordinal = false ∧ less.selects row ordinal = false)) ∧
    (∃ s, ofText "$0 > '3'" h = .ok s ∧ ∀ row ordinal p, p = ordinal + 1 →
      (s.selects row ordinal = true ↔
        (4 ≤ p ∧ p ≤ 9) ∨ ∃ k, 1 ≤ k ∧ 3 * 10 ^ k ≤ p ∧ p ≤ 10 ^ (k + 1) - 1)) ∧
    ∀ value, ∃ s, ofText (placing .equal value) h = .ok s ∧
      (∀ row ordinal, s.selects row ordinal = true ↔ value = toString (ordinal + 1)) ∧
      ∀ rows, (s.apply rows).length ≤ 1 ∧
        ∀ row i, (row, i) ∈ s.selected rows ↔ rows[i]? = some row ∧ value = toString (i + 1) := by
  refine ⟨fun m hm => ?_, ?_, fun value => ?_⟩
  · obtain ⟨equal, hequal, hequals⟩ := Query.ofText_numeral .equal (by simp) m h
    obtain ⟨less, hless, hlesses⟩ := Query.ofText_numeral .less (by simp) m h
    obtain ⟨greater, hgreater, hgreaters⟩ := Query.ofText_numeral .greater (by simp) m h
    refine ⟨equal, less, greater, hequal, hless, hgreater, ?_⟩
    rintro row ordinal p a b rfl rfl rfl
    have htotal := Query.Operator.totally_relates (some (toString (ordinal + 1)))
      (some (toString m))
    refine ⟨(hequals row ordinal).trans Query.numeral_eq_iff, ?_, ?_⟩
    · rw [hlesses row ordinal]
      exact Query.numeral_lt_iff.trans (Text.toDigits_lt_iff (Nat.succ_pos ordinal) hm rfl rfl)
    · rw [← Bool.not_eq_true, ← Bool.not_eq_true, hequals, hlesses, hgreaters]
      exact htotal.greater
  · obtain ⟨s, hs, hselects⟩ := Query.ofText_numeral .greater (by simp) 3 h
    refine ⟨s, hs, ?_⟩
    rintro row ordinal p rfl
    rw [hselects row ordinal]
    exact Query.numeral_lt_iff.trans (Query.three_lt_iff (Nat.succ_pos ordinal))
  · obtain ⟨s, hs, hselects⟩ := Query.ofText_placing .equal (by simp) value h
    have hplace : ∀ row ordinal, s.selects row ordinal = true ↔ toString (ordinal + 1) = value :=
      fun row ordinal => (hselects row ordinal).trans Option.some_inj
    refine ⟨s, hs, fun row ordinal => (hplace row ordinal).trans eq_comm,
      fun rows => ⟨length_apply_le_one hplace rows, fun row i => ?_⟩⟩
    rw [selected, List.mem_filter, List.mem_zipIdx_iff_getElem?]
    exact and_congr_right fun _ => (hplace row i).trans eq_comm

/-- The twentieth row is before the third one, whatever its cells are, and a
text with a zero in front is the numeral of none. -/
theorem placed_in_order_twenty :
    (∃ s, ofText "$0 < '3'" (.positional .noColumns) = .ok s ∧
      ∀ row, s.selects row 19 = true) ∧
    ∃ s, ofText "$0 = '020'" (.positional .noColumns) = .ok s ∧
      ∀ row, s.selects row 19 = false := by
  obtain ⟨hnumeral, -, htext⟩ := placed_in_order (.positional .noColumns)
  obtain ⟨_, less, _, -, hless, -, hselects⟩ := hnumeral 3 (by decide)
  obtain ⟨equal, hequal, hplace, -⟩ := htext "020"
  refine ⟨⟨less, hless, fun row => ?_⟩, equal, hequal, fun row => ?_⟩
  · exact (hselects row 19 20 2 1 rfl (by simp) (by simp)).2.1.2 (.inl (by decide))
  · rw [← Bool.not_eq_true, hplace row 19]
    decide

end Selection

end RowQuery
