import LayeredScene.Geometry.Box
import LayeredScene.Value.Basic

/-! # What delegates describe

Records that a scene delegate hands back about its prims. A record that nothing was authored for has
all fields empty, zero or false.
-/

namespace LayeredScene

inductive Interpolation
  | constant
  | uniform
  | varying
  | vertex
  | faceVarying
  | perInstance
deriving DecidableEq, Repr, Inhabited

namespace Interpolation

def all : List Interpolation := [.constant, .uniform, .varying, .vertex, .faceVarying, .perInstance]

def name : Interpolation → Token
  | .constant => "constant"
  | .uniform => "uniform"
  | .varying => "varying"
  | .vertex => "vertex"
  | .faceVarying => "faceVarying"
  | .perInstance => "instance"

def named? (name : Token) : Option Interpolation := all.find? (·.name = name)

end Interpolation

structure PrimvarDescriptor where
  name : Token
  interpolation : Interpolation
  role : Token
  indexed : Bool
deriving DecidableEq

structure ComputedPrimvarDescriptor where
  name : Token
  interpolation : Interpolation
  role : Token
  computation : Path
  output : Token
  valueType : Token
deriving DecidableEq

structure ComputationInput where
  name : Token
  computation : Path
  output : Token
deriving DecidableEq

structure ComputationOutput where
  name : Token
  valueType : Token
deriving DecidableEq

structure MeshTopology where
  scheme : Token
  orientation : Token
  faceVertexCounts : List Int32
  faceVertexIndices : List Int32
  holeIndices : List Int32
deriving DecidableEq, Inhabited

structure SubdivisionTags where
  faceVaryingRule : Token
  vertexRule : Token
  triangleRule : Token
  cornerIndices : List Int32
  cornerWeights : List Float32
  creaseIndices : List Int32
  creaseLengths : List Int32
  creaseWeights : List Float32
deriving Inhabited

structure CurvesTopology where
  type : Token
  basis : Token
  wrap : Token
  vertexCounts : List Int32
  indices : List Int32
deriving DecidableEq, Inhabited

structure VolumeField where
  name : Token
  primType : Token
  path : Path
deriving DecidableEq

structure RenderBuffer where
  dimensions : Vector Int32 3
  format : Token
  multiSampled : Bool

instance : Inhabited RenderBuffer := ⟨⟨.replicate 3 0, "", false⟩⟩

structure DisplayStyle where
  refineLevel : Int32
  flatShading : Bool
  displacement : Bool
  inOverlay : Bool
  occludedSelectionShows : Bool
  pointsShading : Bool
  materialIsFinal : Bool
deriving DecidableEq, Inhabited

inductive CullStyle
  | dontCare
  | nothing
  | back
  | front
  | backUnlessDoubleSided
  | frontUnlessDoubleSided
deriving DecidableEq, Repr, Inhabited

def CullStyle.name? : CullStyle → Option Token
  | .dontCare => none
  | .nothing => some "nothing"
  | .back => some "back"
  | .front => some "front"
  | .backUnlessDoubleSided => some "backUnlessDoubleSided"
  | .frontUnlessDoubleSided => some "frontUnlessDoubleSided"

def CullStyle.named? (name : Token) : Option CullStyle :=
  [nothing, back, front, backUnlessDoubleSided, frontUnlessDoubleSided].find? (·.name? = some name)

/-- A connection in a material: the output `inputName` of the node `inputNode` feeds the input
`outputName` of the node `outputNode`. -/
structure MaterialRelationship where
  inputNode : Path
  inputName : Token
  outputNode : Path
  outputName : Token
deriving DecidableEq

/-- The nodes behind one terminal of a material, the terminal's own node last. -/
structure MaterialNetwork where
  nodes : List MaterialNode
  relationships : List MaterialRelationship
deriving Inhabited

end LayeredScene
