import LayeredScene.Geometry.Angle
import LayeredScene.Geometry.Space
import LayeredScene.Number.Half

/-! # Rotations

Rotations are quaternions in single precision; half precision ones are a storage format whose
arithmetic is done in single precision.
-/

namespace LayeredScene

structure Quaternion where
  x : Float32
  y : Float32
  z : Float32
  w : Float32

namespace Quaternion

def identity : Quaternion := ⟨0, 0, 0, 1⟩

instance : Inhabited Quaternion := ⟨identity⟩

def components (q : Quaternion) : List Float32 := [q.x, q.y, q.z, q.w]

def equal (p q : Quaternion) : Bool := p.x == q.x && p.y == q.y && p.z == q.z && p.w == q.w

def dot (p q : Quaternion) : Float32 := (p.x * q.x + p.z * q.z) + (p.y * q.y + p.w * q.w)

instance : Add Quaternion := ⟨fun p q => ⟨p.x + q.x, p.y + q.y, p.z + q.z, p.w + q.w⟩⟩

instance : Neg Quaternion := ⟨fun q => ⟨-q.x, -q.y, -q.z, -q.w⟩⟩

def scale (q : Quaternion) (factor : Float32) : Quaternion :=
  ⟨q.x * factor, q.y * factor, q.z * factor, q.w * factor⟩

def dividedBy (q : Quaternion) (divisor : Float32) : Quaternion :=
  ⟨q.x / divisor, q.y / divisor, q.z / divisor, q.w / divisor⟩

def after (p q : Quaternion) : Quaternion where
  x := (p.w * q.x + p.x * q.w) + (p.y * q.z - p.z * q.y)
  y := (p.w * q.y - p.x * q.z) + (p.y * q.w + p.z * q.x)
  z := (p.w * q.z + p.x * q.y) + (p.z * q.w - p.y * q.x)
  w := (p.w * q.w - p.x * q.x) - (p.y * q.y + p.z * q.z)

def normalized (q : Quaternion) : Quaternion := q.dividedBy (q.dot q).sqrt

def nearOne : Float32 := 1 - Float32.ofBits 0x34000000

/-- The rotation part of the way from one to another, along the shorter arc. A quaternion and its
negative are the same rotation, so the target is negated where that is nearer. -/
def slerp (start target : Quaternion) (part : Float32) : Quaternion :=
  let cosine := start.dot target
  let (target, cosine) := if cosine < 0 then (-target, -cosine) else (target, cosine)
  if nearOne < cosine then (start.scale (1 - part) + target.scale part).normalized
  else
    let angle := Angle.ofCosine cosine
    (start.scale (Angle.sine (angle * (1 - part))) + target.scale (Angle.sine (angle * part)))
      |>.dividedBy (Angle.sine angle)

end Quaternion

/-- The rotation around an axis by an angle in degrees. An axis without a direction gives no
rotation. -/
def Quaternion.around (axis : Vector Float32 3) (degrees : Float32) : Quaternion :=
  let size := lengthOf axis
  if size ≤ Float32.ofBits 0x34000000 || !size.isFinite then identity
  else
    let half := degrees * Float32.ofBits 0x3c8efa35 * 0.5
    let sine := half.sin
    ⟨xOf axis / size * sine, yOf axis / size * sine, zOf axis / size * sine, half.cos⟩

structure HalfQuaternion where
  x : Half
  y : Half
  z : Half
  w : Half
deriving DecidableEq, Inhabited

namespace HalfQuaternion

def zero : HalfQuaternion := ⟨⟨0⟩, ⟨0⟩, ⟨0⟩, ⟨0⟩⟩

def ofQuaternion (q : Quaternion) : HalfQuaternion :=
  ⟨.ofFloat32 q.x, .ofFloat32 q.y, .ofFloat32 q.z, .ofFloat32 q.w⟩

def toQuaternion (q : HalfQuaternion) : Quaternion :=
  ⟨q.x.toFloat32, q.y.toFloat32, q.z.toFloat32, q.w.toFloat32⟩

def components (q : HalfQuaternion) : List Half := [q.x, q.y, q.z, q.w]

end HalfQuaternion

end LayeredScene
