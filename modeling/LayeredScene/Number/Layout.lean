import LayeredScene.Number.Shortest

/-! # Laying out decimals

Given the digits of a number and the place of the first one, a layout decides between positional
and scientific notation and how each is spelled.
-/

namespace LayeredScene

structure NumberLayout where
  /-- the lowest exponent of the first digit that is written positionally -/
  lowest : Int
  /-- the highest exponent of the first digit that is written positionally -/
  highest : Int
  /-- what is put after a whole number in positional notation -/
  wholeEnding : String
  /-- what stands before the exponent in scientific notation -/
  exponentMark : String
  /-- what stands before an exponent that is not negative -/
  positiveSign : String

namespace NumberLayout

def positional (layout : NumberLayout) (digits : List Char) (exponent : Int) : String :=
  if 0 ≤ exponent then
    String.ofList (digits ++ List.replicate exponent.toNat '0') ++ layout.wholeEnding
  else
    let places := (-exponent).toNat
    let padded := List.replicate (places + 1 - digits.length) '0' ++ digits
    let whole := padded.take (padded.length - places)
    let fraction := padded.drop (padded.length - places)
    String.ofList (whole ++ '.' :: fraction)

def scientific (layout : NumberLayout) (digits : List Char) (leading : Int) : String :=
  let mantissa :=
    match digits with
    | first :: second :: rest => String.ofList (first :: '.' :: second :: rest)
    | few => String.ofList few
  let sign := if leading < 0 then "-" else layout.positiveSign
  mantissa ++ layout.exponentMark ++ sign ++ toString leading.natAbs

def write (layout : NumberLayout) (decimal : Decimal) : String :=
  let digits := Nat.toDigits 10 decimal.digits
  let leading := decimal.exponent + digits.length - 1
  if layout.lowest ≤ leading ∧ leading ≤ layout.highest then
    layout.positional digits decimal.exponent
  else layout.scientific digits leading

def writeFloat (layout : NumberLayout) (number : Float) : String :=
  let sign := if number.toBits >>> 63 = 1 then "-" else ""
  if number == 0 then sign ++ layout.positional ['0'] 0
  else sign ++ layout.write (Decimal.ofFloat number)

end NumberLayout

end LayeredScene
