import LayeredScene.Motion.Extrapolation
import LayeredScene.Motion.Mode
import LayeredScene.PrimType
import LayeredScene.Scene.Dependencies
import LayeredScene.Source.Overlay
import LayeredScene.Source.Walk

/-! # Moving primvars

Points and the places of instances that come with velocities are extrapolated from the last sample
authored at or before the current frame. That sample and the velocities have to be authored
together: they bracket the current frame at one time, there are velocities for all items, and both
are of the types that go together. Otherwise the primvar stays as it is authored.
-/

namespace LayeredScene

namespace Motion

def movedPrimvars : List Token :=
  ["points", "instanceTranslations", "instanceRotations", "instanceScales"]

def sampleCountName : Token := "nonlinearSampleCount"

/-- The number of samples of curved motion where none is authored, and the least there can be. -/
def leastSampleCount : Int32 := 3

/-- The time of the last sample at or before the current frame; a source that is the same at all
times has the fallback. -/
def bracketTime (source : Sampled) (fallback : Float32) : Reads Float32 := do
  return ((← source.times 0 0).bind List.head?).getD fallback

end Motion

/-- A moved primvar: its name, its authored value, the data of its prim, and the scene index that
declares the frame rate. -/
structure MovingPrimvar where
  name : Token
  source : Sampled
  prim : Container
  input : Nat

structure MotionSample where
  value : Value
  velocities : List (Vector Float32 3)
  time : Float32

namespace MovingPrimvar

def turns (primvar : MovingPrimvar) : Bool := primvar.name = "instanceRotations"

def freezes (primvar : MovingPrimvar) : Bool := primvar.name = "instanceScales"

/-- How the prim wants its velocities used. An unknown mode is taken for the usual one. -/
def mode (primvar : MovingPrimvar) : Reads MotionMode := do
  match (← primvar.prim.get "velocityMotionMode").bind Source.sampled? with
  | some sampled => return ((← sampled.value 0).token?.bind MotionMode.named?).getD .enable
  | none => return .enable

def sampleCount (primvar : MovingPrimvar) : Reads Int32 := do
  match ← primvar.prim.findSampled (.primvarValue Motion.sampleCountName) with
  | some sampled =>
      return ((ValueType.single .int).extract? (← sampled.value 0)).getD Motion.leastSampleCount
  | none => return Motion.leastSampleCount

/-- The accelerations authored together with a sample; none if they are absent, of another type or
authored at another time. -/
def accelerations (primvar : MovingPrimvar) (time : Float32) : Reads (List (Vector Float32 3)) := do
  match ← primvar.prim.findSampled (.primvarValue "accelerations") with
  | none => return []
  | some sampled =>
      let ownTime ← Motion.bracketTime sampled time
      if ownTime != time then return []
      return ((← sampled.value ownTime).vectors?).getD []

def accepts (primvar : MovingPrimvar) : Value → Bool
  | .array .quatf _ | .array .quath _ => primvar.turns
  | .array .float3 _ => !primvar.turns
  | _ => false

def motion? (primvar : MovingPrimvar) : Reads (Option MotionSample) := do
  let velocitiesName := if primvar.turns then "angularVelocities" else "velocities"
  match ← primvar.prim.findSampled (.primvarValue velocitiesName) with
  | none => return none
  | some sampled =>
      let time ← Motion.bracketTime primvar.source 0
      let velocitiesTime ← Motion.bracketTime sampled 0
      if time != velocitiesTime then return none
      match (← sampled.value time).vectors? with
      | none => return none
      | some velocities =>
          let value ← primvar.source.value time
          if velocities.length < value.arraySize || !primvar.accepts value then return none
          return some ⟨value, velocities, time⟩

/-- Whether a primvar moves along a curve in some mode: it turns, or it has as many accelerations as
items and the mode heeds them. -/
def curves (primvar : MovingPrimvar) (mode : MotionMode) (motion : MotionSample) : Reads Bool :=
  if primvar.turns then pure true
  else if mode = .enable then
    (fun accelerations => decide (motion.value.arraySize ≤ accelerations.length)) <$>
      primvar.accelerations motion.time
  else pure false

/-- The authored times that the moved values between two times depend on. Straight motion is known
from its ends; turning and accelerated motion are curved. -/
def times (primvar : MovingPrimvar) (start finish : Float32) : Reads (Option (List Float32)) := do
  let mode ← primvar.mode
  if mode = .ignore then primvar.source.times start finish
  else
    match ← primvar.motion? with
    | none => primvar.source.times start finish
    | some motion =>
        if mode = .disable || primvar.freezes then return none
        else if ← primvar.curves mode motion then
          let count ← primvar.sampleCount
          let steps := (max count.toInt Motion.leastSampleCount.toInt).toNat - 1
          return some (Motion.curvedTimes start finish steps)
        else return some [start, finish]

/-- The value moved to a time. The frame rate turns the distance from the sample into seconds. -/
def value (primvar : MovingPrimvar) (time : Float32) : Reads Value := do
  let mode ← primvar.mode
  if mode = .ignore then primvar.source.value time
  else
    match ← primvar.motion? with
    | none => primvar.source.value time
    | some motion =>
        if mode = .disable || primvar.freezes then primvar.source.value motion.time
        else
          let rate ← fun around store => around.frameRate primvar.input store
          let seconds := (time - motion.time) / rate.toFloat32
          match motion.value with
          | .array .quatf rotations =>
              return .array .quatf (Motion.turn seconds rotations motion.velocities)
          | .array .quath rotations =>
              return .array .quath (Motion.turnHalf seconds rotations motion.velocities)
          | .array .float3 positions =>
              let accelerations ←
                if mode = .noAcceleration then pure [] else primvar.accelerations motion.time
              if positions.length ≤ accelerations.length then
                return .array .float3
                  (Motion.accelerate seconds positions motion.velocities accelerations)
              else return .array .float3 (Motion.advance seconds positions motion.velocities)
          | _ => return .empty

def typeOf : Value → Option ValueType
  | .array .float3 _ => some (.array .float3)
  | .array .quatf _ => some (.array .quatf)
  | .array .quath _ => some (.array .quath)
  | _ => none

def sampled (primvar : MovingPrimvar) (type : Option ValueType) : Sampled where
  mark := ⟨none, primvar.input :: primvar.prim.mark.keeps ++ primvar.source.mark.keeps⟩
  value := primvar.value
  times := primvar.times
  typed := type.map fun type => ⟨type, fun time => type.read <$> primvar.value time⟩

end MovingPrimvar

namespace Motion

def movedPrimvar (prim : Container) (input : Nat) (name : Token) (primvar : Container) :
    Container where
  mark := ⟨none, input :: prim.mark.keeps ++ primvar.mark.keeps⟩
  names := primvar.names
  get member := do
    match ← primvar.get member with
    | none => return none
    | some found =>
        if member = "primvarValue" then
          match found with
          | .sampled source => do
              let moving : MovingPrimvar := ⟨name, source, prim, input⟩
              return some (.sampled (moving.sampled (MovingPrimvar.typeOf (← source.value 0))))
          | other => return some other
        else return some found

def movedPrimvarsOf (prim : Container) (input : Nat) (primvars : Container) : Container where
  mark := ⟨none, input :: prim.mark.keeps ++ primvars.mark.keeps⟩
  names := primvars.names
  get name := do
    match ← primvars.get name with
    | none => return none
    | some found =>
        if movedPrimvars.contains name then
          match found.container? with
          | some primvar => return some (movedPrimvar prim input name primvar).toSource
          | none => return some found
        else return some found

def movedData (input : Nat) (prim : Container) : Container where
  mark := ⟨none, input :: prim.mark.keeps⟩
  names := do
    let names ← prim.names
    return if names.contains dependenciesName then names else names ++ [dependenciesName]
  get name := do
    let found ← prim.get name
    if name = dependenciesName then
      return (Container.overlayPresent none (some frameRateDependencies)
        (found.bind Source.container?)).map Container.toSource
    else if name = "primvars" then
      match found.bind Source.container? with
      | some primvars => return some (movedPrimvarsOf prim input primvars).toSource
      | none => return found
    else return found

end Motion

end LayeredScene
