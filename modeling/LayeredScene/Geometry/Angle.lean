/-! # Angles

Blending rotations needs the angle of a cosine and sines of parts of it. Both are polynomials in
single precision that are close to the exact functions, and their values are what blends are made
of: another way to work them out would give other rotations where much depends on the last digits.
-/

namespace LayeredScene.Angle

def polynomial (coefficients : List Float32) (x : Float32) : Float32 :=
  match coefficients with
  | [] => 0
  | highest :: lower => lower.foldl (fun sum coefficient => sum * x + coefficient) highest

def half : Float32 := .ofBits 0x40490fdb

def quarter : Float32 := .ofBits 0x3fc90fdb

def ofCosine (cosine : Float32) : Float32 :=
  polynomial
    [-0.0012624911, 0.00667009, -0.017088126, 0.03089188, -0.050174303, 0.08897899, -0.2145988,
      1.5707963] cosine * (1 - cosine).sqrt

/-- The nearest whole number, the even one of two. From some size on all numbers are whole, and
adding a number of that size to a smaller one rounds it. -/
def nearestWhole (number : Float32) : Float32 :=
  let large : Float32 := if number < 0 then -8388608 else 8388608
  if number.abs ≤ 8388608 then number + large - large else number

def withoutTurns (angle : Float32) : Float32 :=
  angle - .ofBits 0x40c90fdb * nearestWhole (angle * 0.15915494)

def folded (angle : Float32) : Float32 :=
  let angle := withoutTurns angle
  if angle.abs ≤ quarter then angle
  else (if angle < 0 then -half else half) - angle

def sine (angle : Float32) : Float32 :=
  let angle := folded angle
  polynomial [-2.3889859e-8, 2.7525562e-6, -0.00019840874, 0.008333331, -0.16666667, 1]
    (angle * angle) * angle

end LayeredScene.Angle
