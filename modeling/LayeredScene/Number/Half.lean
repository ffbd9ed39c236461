/-! # Half precision

Half precision numbers have ten bits of fraction and five of exponent. Arithmetic on them is done
in single precision, so only the two conversions are needed. Both work on the bits: widening is
exact, narrowing rounds to the nearest half precision number and a tie to the even one.
-/

namespace LayeredScene

structure Half where
  bits : UInt16
deriving DecidableEq, Repr, Inhabited

namespace Half

/-- `amount / 2 ^ places` rounded to a whole number, a tie to the even one. -/
def roundedShift (amount places : Nat) : Nat :=
  let quotient := amount >>> places
  let rest := amount - (quotient <<< places)
  let whole := Nat.pow 2 places
  if 2 * rest > whole ∨ 2 * rest = whole ∧ quotient % 2 = 1 then quotient + 1 else quotient

/-- The bits below the sign of the nearest half precision number to a finite single precision
number with the given exponent and fraction bits. A number below the normal range counts in steps
of `2 ^ (-24)`; one that rounds past the largest finite number is infinite. -/
def magnitudeOfSingle (exponent fraction : Nat) : Nat :=
  let significand := fraction + Nat.pow 2 23
  if exponent < 102 then 0
  else if exponent < 113 then roundedShift significand (126 - exponent)
  else min 0x7c00 ((exponent - 113) * Nat.pow 2 10 + roundedShift significand 13)

def ofFloat32 (number : Float32) : Half :=
  let bits := number.toBits.toNat
  let sign := (bits >>> 31) <<< 15
  let exponent := (bits >>> 23) % Nat.pow 2 8
  let fraction := bits % Nat.pow 2 23
  let magnitude :=
    if exponent = 255 then (if fraction = 0 then 0x7c00 else 0x7e00)
    else magnitudeOfSingle exponent fraction
  ⟨UInt16.ofNat (sign + magnitude)⟩

def toFloat32 (half : Half) : Float32 :=
  let bits := half.bits.toNat
  let sign := (bits >>> 15) <<< 31
  let exponent := (bits >>> 10) % Nat.pow 2 5
  let fraction := bits % Nat.pow 2 10
  let single (magnitude : Nat) := Float32.ofBits (UInt32.ofNat (sign + magnitude))
  if exponent = 31 then single (0x7f800000 + fraction * Nat.pow 2 13)
  else if exponent = 0 then
    let size := Float32.ofNat fraction * Float32.ofBits 0x33800000
    if sign = 0 then size else -size
  else single ((exponent + 112) * Nat.pow 2 23 + fraction * Nat.pow 2 13)

def isNaN (half : Half) : Bool := half.toFloat32.isNaN

end Half

end LayeredScene
