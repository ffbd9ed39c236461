import LayeredScene.Delegate.Answers

/-! # Authored answers

What was authored for a prim is usually a few answers out of many. `Authored` holds those;
everything else is answered as for a prim that nothing was authored for.
-/

namespace LayeredScene

structure Authored where
  value : Token → Option Value
  indexedValue : Token → Option (Value × List Int32)
  valueSamples : Token → Option (List (Float32 × Value))
  indexedValueSamples : Token → Option (List (Float32 × Value × List Int32))
  primvars : Option (List PrimvarDescriptor)
  computedPrimvars : Option (List ComputedPrimvarDescriptor)
  meshTopology : Option MeshTopology
  curvesTopology : Option CurvesTopology
  subdivisionTags : Option SubdivisionTags
  doubleSided : Option Bool
  transform : Option Matrix
  transformSamples : Option (List (Float32 × Matrix))
  instancerTransform : Option Matrix
  instancerTransformSamples : Option (List (Float32 × Matrix))
  computationInputNames : Option (List Token)
  computationInputs : Option (List ComputationInput)
  computationOutputs : Option (List ComputationOutput)
  computationInput : Token → Option Value
  computationInputSamples : Token → Option (List (Float32 × Value))
  computationKernel : Option String
  cameraParameter : Token → Option Value
  lightParameter : Token → Option Value
  visible : Option Bool
  renderTag : Option Token
  extent : Option Box
  categories : Option (List Token)
  coordinateSystems : Option (List Path)
  displayStyle : Option DisplayStyle
  shadingStyle : Option Token
  reprSelector : Option (List Token)
  cullStyle : Option CullStyle
  instancer : Option Path
  prototypes : Option (List Path)
  instanceIndices : Path → Option (List Int32)
  instanceCategories : Option (List (List Token))
  material : Option Path
  materialResource : Option (List (Token × MaterialNetwork))
  volumeFields : Option (List VolumeField)
  renderBuffer : Option RenderBuffer

def PrimAnswers.ofAuthored (authored : Authored) : PrimAnswers where
  value name := (authored.value name).getD (unauthored.value name)
  indexedValue name := (authored.indexedValue name).getD (unauthored.indexedValue name)
  valueSamples := authored.valueSamples
  indexedValueSamples := authored.indexedValueSamples
  primvars interpolation :=
    (authored.primvars.getD []).filter (·.interpolation = interpolation)
  computedPrimvars interpolation :=
    (authored.computedPrimvars.getD []).filter (·.interpolation = interpolation)
  meshTopology := authored.meshTopology.getD unauthored.meshTopology
  curvesTopology := authored.curvesTopology.getD unauthored.curvesTopology
  subdivisionTags := authored.subdivisionTags.getD unauthored.subdivisionTags
  doubleSided := authored.doubleSided.getD unauthored.doubleSided
  transform := authored.transform.getD unauthored.transform
  transformSamples := authored.transformSamples
  instancerTransform := authored.instancerTransform.getD unauthored.instancerTransform
  instancerTransformSamples := authored.instancerTransformSamples
  computationInputNames := authored.computationInputNames.getD unauthored.computationInputNames
  computationInputs := authored.computationInputs.getD unauthored.computationInputs
  computationOutputs := authored.computationOutputs.getD unauthored.computationOutputs
  computationInput name := (authored.computationInput name).getD (unauthored.computationInput name)
  computationInputSamples := authored.computationInputSamples
  computationKernel := authored.computationKernel.getD unauthored.computationKernel
  cameraParameter name := (authored.cameraParameter name).getD (unauthored.cameraParameter name)
  lightParameter name := (authored.lightParameter name).getD (unauthored.lightParameter name)
  visible := authored.visible.getD unauthored.visible
  renderTag := authored.renderTag.getD unauthored.renderTag
  extent := authored.extent.getD unauthored.extent
  categories := authored.categories.getD unauthored.categories
  coordinateSystems := authored.coordinateSystems.getD unauthored.coordinateSystems
  displayStyle := authored.displayStyle.getD unauthored.displayStyle
  shadingStyle := authored.shadingStyle.getD unauthored.shadingStyle
  reprSelector := authored.reprSelector.getD unauthored.reprSelector
  cullStyle := authored.cullStyle.getD unauthored.cullStyle
  instancer := authored.instancer.getD unauthored.instancer
  prototypes := authored.prototypes.getD unauthored.prototypes
  instanceIndices prototype :=
    (authored.instanceIndices prototype).getD (unauthored.instanceIndices prototype)
  instanceCategories := authored.instanceCategories.getD unauthored.instanceCategories
  material := authored.material.getD unauthored.material
  materialResource := authored.materialResource
  volumeFields := authored.volumeFields.getD unauthored.volumeFields
  renderBuffer := authored.renderBuffer.getD unauthored.renderBuffer

end LayeredScene
