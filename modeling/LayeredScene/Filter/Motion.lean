import LayeredScene.Motion.Primvars
import LayeredScene.Scene.Prim

/-! # Resolving motion

A motion filter shows prims that can move by velocities with their primvars moved. A change to what
moves a primvar is a change to the primvar. Whether scales are frozen depends on whether anything
moves, so they change along with positions and with rotations.
-/

namespace LayeredScene.Motion

def movedPrim (input : Nat) (prim : Prim) : Prim :=
  if PrimType.isMovable prim.type then { prim with data := prim.data.map (movedData input) }
  else prim

def scene (input : Nat) (below : Scene) : Scene :=
  { below with prim := fun path => movedPrim input (below.prim path) }

def positionCauses : LocatorSet :=
  .ofList [.primvar "velocities", .primvar "accelerations", .primvar sampleCountName, .motionMode]

def positionEffects : LocatorSet :=
  .ofList [.primvar "points", .primvar "instanceTranslations", .primvar "instanceScales"]

def rotationCauses : LocatorSet :=
  .ofList [.primvar "angularVelocities", .primvar sampleCountName, .motionMode]

def rotationEffects : LocatorSet :=
  .ofList [.primvar "instanceRotations", .primvar "instanceScales"]

/-- A set of changed places with the effects of those that have any. -/
def widen (changed : LocatorSet) : LocatorSet :=
  let withPositions :=
    if changed.meets positionCauses then changed.union positionEffects else changed
  if withPositions.meets rotationCauses then withPositions.union rotationEffects else withPositions

end LayeredScene.Motion
