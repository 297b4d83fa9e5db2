import RowQuery.Json.Value
import RowQuery.Text.Decimal
import RowQuery.Text.Shortest
/-!
# JSON numbers

Numbers are read from their literals and written. An integer literal within
the range of signed and unsigned 64-bit words stays an integer, zero with a
sign apart; every other literal is a double, and must not overflow.

A literal is read as a decimal significand of 64 bits and a power of ten:
digits that no longer fit are dropped, and count only for the power when
they stand before the point. The double is the significand times or divided
by the power, rounded at each step.
-/

namespace RowQuery

namespace JsonNumber

/-- The bound of 64-bit words, 2 to the power of 64. -/
def wordBound : Nat := 18446744073709551616

/-- The largest exponent of ten that is applied in one step. -/
def largestPower : Nat := 308

/-- A power of ten as a double. -/
def powerOfTen (e : Nat) : Float := Float.ofScientific 1 false e

/-- Divides a double by a power of ten, in steps of the largest power. -/
def divideByPower (x : Float) (e : Nat) : Float :=
  if _h : e ≤ largestPower then x / powerOfTen e
  else if x == 0 then x
  else divideByPower (x / powerOfTen largestPower) (e - largestPower)
termination_by e
decreasing_by simp only [largestPower] at _h ⊢; omega

/-- The double of a significand and an exponent of ten, unless it
overflows. -/
def double? (negative : Bool) (significand : Nat) (exponent : Int) : Option JsonNumber :=
  let x := Float.ofNat significand
  let scaled :=
    if exponent < 0 then some (divideByPower x exponent.natAbs)
    else if exponent.toNat ≤ largestPower then
      let y := x * powerOfTen exponent.toNat
      if y.isInf then none else some y
    else if x == 0 then some x
    else none
  scaled.map fun y => double (if negative then -y else y).toBits

/-- The longest beginning of digits that fits a word behind the digits that
spell a number: the number it spells with them, and how many digits it
has. -/
def fitting (start : Nat) : List Char → Nat × Nat
  | [] => (start, 0)
  | d :: rest =>
    let next := 10 * start + (d.toNat - '0'.toNat)
    if next < wordBound then
      let (n, taken) := fitting next rest
      (n, taken + 1)
    else (start, 0)

/-- A number literal, cut into its parts. -/
structure Literal where
  /-- Whether it starts with a sign. -/
  negative : Bool
  /-- The digits before the point. -/
  whole : List Char
  /-- The digits behind the point, if there is one. -/
  fraction : Option (List Char)
  /-- The sign and the digits of the exponent, if there is one. -/
  exponent : Option (Bool × List Char)

/-- The largest exponent that is told from larger ones, the largest 32-bit
integer. -/
def exponentBound : Nat := 2147483647

/-- The number of a literal, unless it overflows. -/
def ofLiteral? (l : Literal) : Option JsonNumber :=
  let (n, taken) := fitting 0 l.whole
  let isWhole := taken = l.whole.length
  if isWhole ∧ l.fraction.isNone ∧ l.exponent.isNone then
    if !l.negative then some (integer n)
    else if n = 0 ∨ wordBound / 2 < n then double? true n 0
    else some (integer (-n))
  else
    let (m, behind) := fitting n (l.fraction.getD [])
    let place : Int := (l.whole.length - taken : Nat) - (behind : Int)
    match l.exponent with
    | none => double? l.negative m place
    | some (down, digits) =>
      let e := Text.numeral digits
      if exponentBound < e then
        if m ≠ 0 ∧ !down then none else double? l.negative 0 0
      else double? l.negative m (if down then place - e else place + e)

/-- How doubles are written: exponents from -5 to 15 are written out, with
at least one digit behind the point. -/
def writtenOut (e : Int) : Bool := -5 ≤ e && e ≤ 15

/-- The digits of a decimal around the point. -/
def plain (digits : List Char) (e : Int) : List Char :=
  if e < 0 then '0' :: '.' :: (List.replicate (-e - 1).toNat '0' ++ digits)
  else
    let whole := digits.take (e.toNat + 1)
    let fraction := digits.drop (e.toNat + 1)
    whole ++ List.replicate (e.toNat + 1 - digits.length) '0' ++
      '.' :: (if fraction.isEmpty then ['0'] else fraction)

/-- A decimal with an exponent. -/
def scientific (digits : List Char) (e : Int) : List Char :=
  let mantissa := match digits with
    | [] => []
    | [d] => [d]
    | d :: rest => d :: '.' :: rest
  mantissa ++ 'e' :: (if e < 0 then '-' else '+') :: Nat.toDigits 10 e.natAbs

/-- The text of a double. -/
def doubleText (bits : UInt64) : List Char :=
  let size := bits.toNat % (wordBound / 2)
  let sign := if wordBound / 2 ≤ bits.toNat then ['-'] else []
  if size = 0 then sign ++ ['0', '.', '0']
  else
    let (digits, e) := (Text.Binary.ofBits size).shortest
    sign ++ if writtenOut e then plain digits e else scientific digits e

/-- The text of a number. -/
def text : JsonNumber → String
  | integer n => (if n < 0 then "-" else "") ++ Text.decimal n.natAbs
  | double bits => String.ofList (doubleText bits)

end JsonNumber

end RowQuery
