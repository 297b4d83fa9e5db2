/-!
# Shortest decimals

The shortest decimal that is read back as a binary floating-point number.
A positive number `m * 2 ^ q` owns the reals that are nearer to it than to
its neighbours; the ends belong to it when `m` is even. Of the decimals with
`n` digits the two next to the number are tried, for `n` from one on: if any
decimal of that grid is owned, so is one of these. Of two that are owned the
nearer is taken, and of two equally near the one with an even last digit.
-/

namespace RowQuery

namespace Text

/-- A positive fraction. -/
structure Fraction where
  /-- The numerator. -/
  num : Nat
  /-- The denominator. -/
  den : Nat

namespace Fraction

/-- The fraction times a power of ten. -/
def scale (x : Fraction) (e : Int) : Fraction :=
  if 0 ≤ e then ⟨x.num * Nat.pow 10 e.toNat, x.den⟩ else ⟨x.num, x.den * Nat.pow 10 (-e).toNat⟩

/-- The exponent of the leading decimal digit. -/
def decimalExponent (x : Fraction) : Int :=
  if x.den ≤ x.num then ((Nat.toDigits 10 (x.num / x.den)).length : Int) - 1
  else -(((List.range 400).find? fun j => x.den ≤ x.num * Nat.pow 10 j).getD 0 : Int)

end Fraction

/-- A positive floating-point number, as `mantissa * 2 ^ exponent`. -/
structure Binary where
  /-- The integer factor. -/
  mantissa : Nat
  /-- The exponent of two. -/
  exponent : Int
  /-- Whether the neighbour below is nearer than the one above. -/
  atPower : Bool

namespace Binary

/-- How many fractions a double can have, 2 to the power of 52. -/
def fractions : Nat := 4503599627370496

/-- The number of a double, by its bits without the sign. -/
def ofBits (bits : Nat) : Binary :=
  let fraction := bits % fractions
  let biased := bits / fractions
  if biased = 0 then ⟨fraction, -1074, false⟩
  else ⟨fractions + fraction, (biased : Int) - 1075, fraction = 0 ∧ 1 < biased⟩

/-- A quarter of the distance between the number and its neighbour above,
times a count. -/
def quarters (b : Binary) (count : Nat) : Fraction :=
  let e := b.exponent - 2
  if 0 ≤ e then ⟨count * Nat.pow 2 e.toNat, 1⟩ else ⟨count, Nat.pow 2 (-e).toNat⟩

/-- Whether the number owns an integer multiple of a power of ten. -/
def owns (b : Binary) (digits : Nat) (place : Int) : Bool :=
  let low := (b.quarters (4 * b.mantissa - if b.atPower then 1 else 2)).scale (-place)
  let high := (b.quarters (4 * b.mantissa + 2)).scale (-place)
  if b.mantissa % 2 = 0 then low.num ≤ digits * low.den ∧ digits * high.den ≤ high.num
  else low.num < digits * low.den ∧ digits * high.den < high.num

/-- The owned one of the two decimals with a number of digits that are next
to the number, as an integer and the place of its last digit. -/
def nearest? (b : Binary) (digits : Nat) : Option (Nat × Int) :=
  let x := b.quarters (4 * b.mantissa)
  let place := x.decimalExponent - (digits - 1 : Nat)
  let scaled := x.scale (-place)
  let below := scaled.num / scaled.den
  let rest := scaled.num % scaled.den
  let nearer :=
    if 2 * rest < scaled.den ∨ (2 * rest = scaled.den ∧ below % 2 = 0) then below else below + 1
  if b.owns below place ∧ b.owns (below + 1) place then some (nearer, place)
  else if b.owns below place then some (below, place)
  else if b.owns (below + 1) place then some (below + 1, place)
  else none

/-- The digits of the shortest decimal, without zeros at the end, and the
exponent of the first one. -/
def shortest (b : Binary) : List Char × Int :=
  let (n, place) := ((List.range 18).findSome? fun n => b.nearest? (n + 1)).getD (0, 0)
  let digits := Nat.toDigits 10 n
  let kept := (digits.reverse.dropWhile (· = '0')).reverse
  (kept, place + digits.length - 1)

end Binary

end Text

end RowQuery
