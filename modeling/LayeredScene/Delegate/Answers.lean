import LayeredScene.Delegate.Descriptors

/-! # Scene delegates

A scene delegate answers questions about its prims one at a time. What it answers for one prim is a
record of answers, each with the value that stands for "nothing authored"; a delegate is such a
record for every path. Timed answers may be missing altogether: then the untimed one holds at all
times.
-/

namespace LayeredScene

structure PrimAnswers where
  value : Token → Value
  indexedValue : Token → Value × List Int32
  valueSamples : Token → Option (List (Float32 × Value))
  indexedValueSamples : Token → Option (List (Float32 × Value × List Int32))
  primvars : Interpolation → List PrimvarDescriptor
  computedPrimvars : Interpolation → List ComputedPrimvarDescriptor
  meshTopology : MeshTopology
  curvesTopology : CurvesTopology
  subdivisionTags : SubdivisionTags
  doubleSided : Bool
  transform : Matrix
  transformSamples : Option (List (Float32 × Matrix))
  instancerTransform : Matrix
  instancerTransformSamples : Option (List (Float32 × Matrix))
  computationInputNames : List Token
  computationInputs : List ComputationInput
  computationOutputs : List ComputationOutput
  computationInput : Token → Value
  computationInputSamples : Token → Option (List (Float32 × Value))
  computationKernel : String
  cameraParameter : Token → Value
  lightParameter : Token → Value
  visible : Bool
  renderTag : Token
  extent : Box
  categories : List Token
  coordinateSystems : List Path
  displayStyle : DisplayStyle
  shadingStyle : Token
  reprSelector : List Token
  cullStyle : CullStyle
  instancer : Path
  prototypes : List Path
  instanceIndices : Path → List Int32
  instanceCategories : List (List Token)
  material : Path
  /-- the networks of a material by terminal, in order of the terminals' names -/
  materialResource : Option (List (Token × MaterialNetwork))
  volumeFields : List VolumeField
  renderBuffer : RenderBuffer

namespace PrimAnswers

def unauthored : PrimAnswers where
  value _ := .empty
  indexedValue _ := (.empty, [])
  valueSamples _ := none
  indexedValueSamples _ := none
  primvars _ := []
  computedPrimvars _ := []
  meshTopology := default
  curvesTopology := default
  subdivisionTags := default
  doubleSided := false
  transform := identityMatrix
  transformSamples := none
  instancerTransform := identityMatrix
  instancerTransformSamples := none
  computationInputNames := []
  computationInputs := []
  computationOutputs := []
  computationInput _ := .empty
  computationInputSamples _ := none
  computationKernel := ""
  cameraParameter _ := .empty
  lightParameter _ := .empty
  visible := true
  renderTag := "geometry"
  extent := .empty
  categories := []
  coordinateSystems := []
  displayStyle := default
  shadingStyle := ""
  reprSelector := []
  cullStyle := .dontCare
  instancer := .empty
  prototypes := []
  instanceIndices _ := []
  instanceCategories := []
  material := .empty
  materialResource := none
  volumeFields := []
  renderBuffer := default

instance : Inhabited PrimAnswers := ⟨unauthored⟩

end PrimAnswers

abbrev Delegate := Path → PrimAnswers

def Delegate.silent : Delegate := fun _ => .unauthored

def Delegate.answering (delegate : Delegate) (path : Path) (answers : PrimAnswers) : Delegate :=
  fun other => if other = path then answers else delegate other

inductive Query
  | value
  | indexedValue
  | sampleValue
  | sampleIndexedValue
  | primvars
  | computedPrimvars
  | meshTopology
  | curvesTopology
  | subdivisionTags
  | doubleSided
  | transform
  | sampleTransform
  | instancerTransform
  | sampleInstancerTransform
  | computationInputNames
  | computationInputs
  | computationOutputs
  | computationInput
  | sampleComputationInput
  | computationKernel
  | cameraParameter
  | lightParameter
  | visible
  | renderTag
  | extent
  | categories
  | coordinateSystems
  | displayStyle
  | shadingStyle
  | reprSelector
  | cullStyle
  | instancer
  | prototypes
  | instanceIndices
  | instanceCategories
  | material
  | materialResource
  | volumeFields
  | renderBuffer
deriving DecidableEq, Repr

end LayeredScene
