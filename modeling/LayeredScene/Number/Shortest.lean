/-! # Shortest decimals

A binary floating point number is written with the fewest decimal digits that read back to it, and
among those with the digits nearest to it. Everything is exact arithmetic on natural numbers: the
number is a significand times a power of two, and the decimals that read back to it are those
between the midpoints to its two neighbours.
-/

namespace LayeredScene

structure Decimal where
  digits : Nat
  exponent : Int
deriving DecidableEq, Repr, Inhabited

/-- A positive binary number with the midpoints to its neighbours, each a multiple of
`numerator / denominator`. The midpoints themselves read back to it only if its significand is
even. -/
structure RoundingSpan where
  low : Nat
  middle : Nat
  high : Nat
  numerator : Nat
  denominator : Nat
  closed : Bool
deriving Repr

namespace RoundingSpan

/-- The span of `significand * 2 ^ exponent`. The neighbour below is only half as far away if
`tight`, which is the case at a power of two above the smallest. -/
def ofBinary (significand : Nat) (exponent : Int) (tight : Bool) : RoundingSpan where
  low := 4 * significand - (if tight then 1 else 2)
  middle := 4 * significand
  high := 4 * significand + 2
  numerator := Nat.pow 2 (exponent - 2).toNat
  denominator := Nat.pow 2 (2 - exponent).toNat
  closed := significand % 2 = 0

def admits (span : RoundingSpan) (digits : Nat) (exponent : Int) : Bool :=
  let decimal := digits * Nat.pow 10 exponent.toNat * span.denominator
  let unit := span.numerator * Nat.pow 10 (-exponent).toNat
  if span.closed then span.low * unit ≤ decimal && decimal ≤ span.high * unit
  else span.low * unit < decimal && decimal < span.high * unit

def lastPlace (number : Nat) : Nat := (Nat.toDigits 10 number).length - 1

def leadingExponent (span : RoundingSpan) : Int :=
  let number := span.middle * span.numerator
  if span.denominator ≤ number then lastPlace (number / span.denominator)
  else
    let place := lastPlace (span.denominator / number)
    if span.denominator ≤ number * Nat.pow 10 place then -(place : Int) else -(place : Int) - 1

/-- The decimal of `count` digits nearest to the middle of a span that reads back to it, if one
does. Of two that are equally near the even one is taken. -/
def decimalOf? (span : RoundingSpan) (count : Nat) : Option Decimal :=
  let exponent := span.leadingExponent - count + 1
  let number := span.middle * span.numerator * Nat.pow 10 (-exponent).toNat
  let unit := span.denominator * Nat.pow 10 exponent.toNat
  let below := number / unit
  let rest := number % unit
  let candidate (digits : Nat) : Option Decimal :=
    if span.admits digits exponent then some ⟨digits, exponent⟩ else none
  if 2 * rest < unit ∨ 2 * rest = unit ∧ below % 2 = 0 then
    (candidate below).or (candidate (below + 1))
  else (candidate (below + 1)).or (candidate below)

def shortest (span : RoundingSpan) : Decimal :=
  ((List.range 17).findSome? fun short => span.decimalOf? (short + 1)).getD
    ⟨span.middle * span.numerator, 0⟩

end RoundingSpan

def Decimal.trimmed (decimal : Decimal) : Decimal :=
  let places := ((Nat.toDigits 10 decimal.digits).reverse.takeWhile (· = '0')).length
  if decimal.digits = 0 then ⟨0, 0⟩
  else ⟨decimal.digits / Nat.pow 10 places, decimal.exponent + places⟩

def Decimal.ofFloat (number : Float) : Decimal :=
  let bits := number.toBits.toNat
  let exponent : Nat := (bits >>> 52) % Nat.pow 2 11
  let fraction : Nat := bits % Nat.pow 2 52
  let span :=
    if exponent = 0 then RoundingSpan.ofBinary fraction (-1074) false
    else
      .ofBinary (fraction + Nat.pow 2 52) ((exponent : Int) - 1075) (fraction = 0 && exponent > 1)
  span.shortest.trimmed

end LayeredScene
