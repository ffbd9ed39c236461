import LayeredScene.TimeSamples.Basic

/-! # Extrapolation

Where things are some seconds after a sample, from where they are at the sample, how fast they move
and how that changes. Items are taken together as far as the shortest list goes.
-/

namespace LayeredScene.Motion

def stretched (factor : Float32) (v : Vector Float32 3) : Vector Float32 3 := v.map (factor * ·)

def sum (v w : Vector Float32 3) : Vector Float32 3 := v.zipWith (· + ·) w

def advance (seconds : Float32) (positions velocities : List (Vector Float32 3)) :
    List (Vector Float32 3) :=
  positions.zipWith (fun position velocity => sum position (stretched seconds velocity)) velocities

def accelerate (seconds : Float32) (positions velocities accelerations : List (Vector Float32 3)) :
    List (Vector Float32 3) :=
  (advance seconds positions velocities).zipWith
    (fun position acceleration => sum position (stretched (0.5 * seconds * seconds) acceleration))
    accelerations

/-- A rotation after a time of turning around the direction of an angular velocity by its length in
degrees per second. -/
def turned (seconds : Float32) (rotation : Quaternion) (angular : Vector Float32 3) : Quaternion :=
  (Quaternion.around angular (seconds * lengthOf angular)).after rotation

def turn (seconds : Float32) (rotations : List Quaternion) (angulars : List (Vector Float32 3)) :
    List Quaternion :=
  rotations.zipWith (turned seconds) angulars

def turnHalf (seconds : Float32) (rotations : List HalfQuaternion)
    (angulars : List (Vector Float32 3)) : List HalfQuaternion :=
  rotations.zipWith
    (fun rotation angular => .ofQuaternion (turned seconds rotation.toQuaternion angular)) angulars

/-- The times at which curved motion between two times is looked at: both ends, and as many evenly
spread between them as make up the number of steps. -/
def curvedTimes (start finish : Float32) (steps : Nat) : List Float32 :=
  start :: ((List.range (steps - 1)).map fun position =>
    start + Float32.ofNat (position + 1) / Float32.ofNat steps * (finish - start)) ++ [finish]

end LayeredScene.Motion
