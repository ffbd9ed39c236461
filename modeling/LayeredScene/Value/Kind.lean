import LayeredScene.Geometry.Quaternion
import LayeredScene.JsonDocument
import LayeredScene.Locator.Text
import LayeredScene.Path.Text

/-! # Kinds of scene values

A scene value holds a single item or an array of items. `Kind` lists the kinds of item, `Content`
says what an item of each kind is, and `ArrayKind` lists the kinds that come in arrays. What is done
with an item (its default, how it blends, how it shows, when two are equal) is one definition over
all kinds.
-/

namespace LayeredScene

inductive Kind
  | bool
  | int
  | int64
  | float
  | double
  | half
  | token
  | string
  | path
  | locator
  | float2
  | float3
  | float4
  | double2
  | double3
  | double4
  | int2
  | int3
  | int4
  | matrix4d
  | quatf
  | quath
deriving DecidableEq, Repr

/-- A four by four matrix, column by column. -/
abbrev Matrix := Vector Float 16

def identityMatrix : Matrix := #v[1, 0, 0, 0, 0, 1, 0, 0, 0, 0, 1, 0, 0, 0, 0, 1]

namespace Kind

/-- What an item of a kind is. -/
@[reducible] def Content : Kind → Type
  | .bool => Bool
  | .int => Int32
  | .int64 => Int64
  | .float => Float32
  | .double => Float
  | .half => Half
  | .token => Token
  | .string => String
  | .path => Path
  | .locator => Locator
  | .float2 => Vector Float32 2
  | .float3 => Vector Float32 3
  | .float4 => Vector Float32 4
  | .double2 => Vector Float 2
  | .double3 => Vector Float 3
  | .double4 => Vector Float 4
  | .int2 => Vector Int32 2
  | .int3 => Vector Int32 3
  | .int4 => Vector Int32 4
  | .matrix4d => Matrix
  | .quatf => Quaternion
  | .quath => HalfQuaternion

def name : Kind → String
  | .bool => "bool"
  | .int => "int"
  | .int64 => "int64"
  | .float => "float"
  | .double => "double"
  | .half => "half"
  | .token => "token"
  | .string => "string"
  | .path => "path"
  | .locator => "locator"
  | .float2 => "float2"
  | .float3 => "float3"
  | .float4 => "float4"
  | .double2 => "double2"
  | .double3 => "double3"
  | .double4 => "double4"
  | .int2 => "int2"
  | .int3 => "int3"
  | .int4 => "int4"
  | .matrix4d => "matrix4d"
  | .quatf => "quatf"
  | .quath => "quath"

def all : List Kind :=
  [.bool, .int, .int64, .float, .double, .half, .token, .string, .path, .locator, .float2, .float3,
    .float4, .double2, .double3, .double4, .int2, .int3, .int4, .matrix4d, .quatf, .quath]

/-- What stands in for an item that is not there: zeros and empty names, but the matrix and the
single precision rotation that move nothing. -/
def default : (kind : Kind) → kind.Content
  | .bool => false
  | .int => 0
  | .int64 => 0
  | .float => 0
  | .double => 0
  | .half => ⟨0⟩
  | .token => ""
  | .string => ""
  | .path => .empty
  | .locator => .whole
  | .float2 => .replicate 2 0
  | .float3 => .replicate 3 0
  | .float4 => .replicate 4 0
  | .double2 => .replicate 2 0
  | .double3 => .replicate 3 0
  | .double4 => .replicate 4 0
  | .int2 => .replicate 2 0
  | .int3 => .replicate 3 0
  | .int4 => .replicate 4 0
  | .matrix4d => identityMatrix
  | .quatf => .identity
  | .quath => .zero

def mix (start target part : Float32) : Float32 := start + (target - start) * part

def mixWide (start target : Float) (part : Float32) : Float :=
  start + (target - start) * part.toFloat

/-- The item part of the way from one to another. Numbers, vectors and matrices go straight,
rotations along their arc; items of any other kind stay what they are. -/
def blend : (kind : Kind) → kind.Content → kind.Content → Float32 → kind.Content
  | .float, start, target, part => mix start target part
  | .double, start, target, part => mixWide start target part
  | .half, start, target, part => .ofFloat32 (mix start.toFloat32 target.toFloat32 part)
  | .float2, start, target, part => start.zipWith (mix · · part) target
  | .float3, start, target, part => start.zipWith (mix · · part) target
  | .float4, start, target, part => start.zipWith (mix · · part) target
  | .double2, start, target, part => start.zipWith (mixWide · · part) target
  | .double3, start, target, part => start.zipWith (mixWide · · part) target
  | .double4, start, target, part => start.zipWith (mixWide · · part) target
  | .matrix4d, start, target, part => start.zipWith (mixWide · · part) target
  | .quatf, start, target, part => start.slerp target part
  | .quath, start, target, part =>
      .ofQuaternion (start.toQuaternion.slerp target.toQuaternion part)
  | _, start, _, _ => start

def blends : Kind → Bool
  | .float | .double | .half | .float2 | .float3 | .float4 | .double2 | .double3 | .double4
  | .matrix4d | .quatf | .quath => true
  | _ => false

/-- Equality of items. Floating point items are equal as numbers: zeros of either sign are, and what
is not a number is not equal to itself. -/
def equal : (kind : Kind) → kind.Content → kind.Content → Bool
  | .bool, a, b => a == b
  | .int, a, b => a == b
  | .int64, a, b => a == b
  | .float, a, b => a == b
  | .double, a, b => a == b
  | .half, a, b => a.toFloat32 == b.toFloat32
  | .token, a, b => a == b
  | .string, a, b => a == b
  | .path, a, b => a == b
  | .locator, a, b => a == b
  | .float2, a, b => a == b
  | .float3, a, b => a == b
  | .float4, a, b => a == b
  | .double2, a, b => a == b
  | .double3, a, b => a == b
  | .double4, a, b => a == b
  | .int2, a, b => a == b
  | .int3, a, b => a == b
  | .int4, a, b => a == b
  | .matrix4d, a, b => a == b
  | .quatf, a, b => a.equal b
  | .quath, a, b => a.toQuaternion.equal b.toQuaternion

private def floats {size : Nat} (items : Vector Float32 size) : JsonDocument :=
  .list (items.toList.map .ofFloat32)

private def doubles {size : Nat} (items : Vector Float size) : JsonDocument :=
  .list (items.toList.map .ofFloat)

private def wholes {size : Nat} (items : Vector Int32 size) : JsonDocument :=
  .list (items.toList.map fun item => .whole item.toInt)

def toJson : (kind : Kind) → kind.Content → JsonDocument
  | .bool, item => .truth item
  | .int, item => .whole item.toInt
  | .int64, item => .whole item.toInt
  | .float, item => .ofFloat32 item
  | .double, item => .ofFloat item
  | .half, item => .ofFloat32 item.toFloat32
  | .token, item => .text item
  | .string, item => .text item
  | .path, item => .text item.toText
  | .locator, item => .text item.toText
  | .float2, item => floats item
  | .float3, item => floats item
  | .float4, item => floats item
  | .double2, item => doubles item
  | .double3, item => doubles item
  | .double4, item => doubles item
  | .int2, item => wholes item
  | .int3, item => wholes item
  | .int4, item => wholes item
  | .matrix4d, item => doubles item
  | .quatf, item => .list (item.components.map .ofFloat32)
  | .quath, item => .list (item.toQuaternion.components.map .ofFloat32)

theorem blend_of_not_blends {kind : Kind} (still : kind.blends = false)
    (start target : kind.Content) (part : Float32) : kind.blend start target part = start := by
  cases kind <;> simp_all [blends, blend]

end Kind

inductive ArrayKind
  | bool
  | int
  | float
  | double
  | token
  | string
  | path
  | float2
  | float3
  | float4
  | double3
  | double4
  | quatf
  | quath
  | matrix4d
deriving DecidableEq, Repr

namespace ArrayKind

/-- The kind of the items of an array. -/
@[reducible] def item : ArrayKind → Kind
  | .bool => .bool
  | .int => .int
  | .float => .float
  | .double => .double
  | .token => .token
  | .string => .string
  | .path => .path
  | .float2 => .float2
  | .float3 => .float3
  | .float4 => .float4
  | .double3 => .double3
  | .double4 => .double4
  | .quatf => .quatf
  | .quath => .quath
  | .matrix4d => .matrix4d

def all : List ArrayKind :=
  [.bool, .int, .float, .double, .token, .string, .path, .float2, .float3, .float4, .double3,
    .double4, .quatf, .quath, .matrix4d]

def name (kind : ArrayKind) : String := kind.item.name ++ "[]"

/-- Arrays of one length blend item by item; an array of another length leaves the first as it
is. -/
def blend (kind : ArrayKind) (start target : List kind.item.Content) (part : Float32) :
    List kind.item.Content :=
  if start.length = target.length then start.zipWith (kind.item.blend · · part) target else start

def equal (kind : ArrayKind) : List kind.item.Content → List kind.item.Content → Bool
  | [], [] => true
  | first :: rest, other :: others => kind.item.equal first other && equal kind rest others
  | _, _ => false

def toJson (kind : ArrayKind) (items : List kind.item.Content) : JsonDocument :=
  .list (items.map kind.item.toJson)

theorem length_blend (kind : ArrayKind) (start target : List kind.item.Content) (part : Float32) :
    (kind.blend start target part).length = start.length := by
  simp only [blend]
  split
  · simp_all [List.length_zipWith]
  · rfl

end ArrayKind

end LayeredScene
