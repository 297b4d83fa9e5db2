/-!
# Decimal numerals

Natural numbers as decimal numerals, written without leading zeros and
read with any number of them.
-/

namespace RowQuery

namespace Text

/-- The decimal numeral of a number. -/
def decimal (n : Nat) : String :=
  String.ofList (Nat.toDigits 10 n)

/-- The number that decimal digits spell. -/
def numeral (digits : List Char) : Nat :=
  digits.foldl (fun n d => 10 * n + (d.toNat - '0'.toNat)) 0

end Text

end RowQuery
