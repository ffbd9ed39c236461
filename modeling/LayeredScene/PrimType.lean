import LayeredScene.Locator.Basic
import LayeredScene.Locator.Set

/-! # Prim types and places in their data

The types of prim that are treated alike, and the places in prim data that several parts of the
library refer to.
-/

namespace LayeredScene

namespace PrimType

def geometry : List Token :=
  ["mesh", "basisCurves", "nurbsCurves", "nurbsPatch", "tetMesh", "points", "volume"]

def lights : List Token :=
  ["light", "simpleLight", "cylinderLight", "diskLight", "distantLight", "domeLight", "meshLight",
    "portalLight", "rectLight", "sphereLight", "pluginLight"]

def volumeFields : List Token := ["openvdbAsset", "field3dAsset"]

def movable : List Token :=
  ["points", "basisCurves", "nurbsCurves", "nurbsPatch", "tetMesh", "mesh", "instancer"]

def isGeometry (type : Token) : Bool := geometry.contains type

def isLight (type : Token) : Bool := lights.contains type

def isVolumeField (type : Token) : Bool := volumeFields.contains type

def isMovable (type : Token) : Bool := movable.contains type

end PrimType

namespace Locator

def primvars : Locator := ⟨["primvars"]⟩

def primvar (name : Token) : Locator := primvars.append name

def primvarValue (name : Token) : Locator := ⟨["primvars", name, "primvarValue"]⟩

def computedPrimvars : Locator := ⟨["extComputationPrimvars"]⟩

def instancerTopology : Locator := ⟨["instancerTopology"]⟩

def mesh : Locator := ⟨["mesh"]⟩

def curves : Locator := ⟨["basisCurves"]⟩

def sceneGlobals : Locator := ⟨["sceneGlobals"]⟩

def sceneGlobal (member : Token) : Locator := sceneGlobals.append member

def motionMode : Locator := ⟨["velocityMotionMode"]⟩

end Locator

end LayeredScene
