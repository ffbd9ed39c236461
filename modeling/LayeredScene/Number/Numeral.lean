import LayeredScene.Number.Shortest

/-! # Numerals

A numeral is digits, with a point and an exponent where there are any. It is read in two steps. The
first keeps it as a decimal whose digits stay below `2 ^ 64`: digits that no longer fit count by
their places only. The second scales the digits by a power of ten in floating point. Each operation
rounds, so the result is close to what is written, but it need not be the nearest number.
-/

namespace LayeredScene.Decimal

def digitOf (c : Char) : Nat := c.toNat - '0'.toNat

/-- Put digits after those of a whole number as long as it stays below `2 ^ 64`. The result comes
with the number of digits that are left over. -/
def extend (whole : Nat) : List Char → Nat × Nat
  | [] => (whole, 0)
  | digit :: rest =>
      let longer := 10 * whole + digitOf digit
      if longer < Nat.pow 2 64 then extend longer rest else (whole, rest.length + 1)

def exponentOf : List Char → Int
  | '-' :: digits => -exponentOf digits
  | '+' :: digits => exponentOf digits
  | digits => digits.foldl (fun exponent digit => 10 * exponent + digitOf digit) 0

/-- The decimal that a numeral without a sign spells. A digit before the point that is left over
raises the exponent by one, and a digit after the point that is kept lowers it by one. -/
def ofNumeral (numeral : List Char) : Decimal :=
  let whole := numeral.takeWhile Char.isDigit
  let rest := numeral.dropWhile Char.isDigit
  let fraction := if rest.head? = some '.' then rest.tail.takeWhile Char.isDigit else []
  let exponent := (rest.dropWhile fun c => c ≠ 'e' ∧ c ≠ 'E').tail
  let (digits, raised) := extend 0 whole
  let (digits, ignored) := extend digits fraction
  ⟨digits, raised + ignored - fraction.length + exponentOf exponent⟩

def powerOfTen (exponent : Nat) : Float := .ofScientific 1 false (min exponent 309)

/-- The digits of a decimal, multiplied or divided by the power of ten in its exponent. A divisor
beyond `10 ^ 308` would be infinite, so it is taken in two steps. -/
def toFloat (decimal : Decimal) : Float :=
  let digits := Float.ofNat decimal.digits
  let places := (-decimal.exponent).toNat
  if decimal.digits = 0 then 0
  else if places = 0 then digits * powerOfTen decimal.exponent.toNat
  else if places ≤ 308 then digits / powerOfTen places
  else digits / powerOfTen 308 / powerOfTen (places - 308)

def read : List Char → Float
  | '-' :: numeral => -(ofNumeral numeral).toFloat
  | numeral => (ofNumeral numeral).toFloat

end LayeredScene.Decimal
