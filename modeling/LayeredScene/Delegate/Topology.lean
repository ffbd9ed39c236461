import LayeredScene.Delegate.Lazy

/-! # Topology of delegates

The topology of a mesh or of curves is fetched when something of it is first read, and kept until it
is said to have changed. All containers over one prim share what is kept.
-/

namespace LayeredScene

structure RememberedPrim extends ServedPrim where
  number : Nat

namespace RememberedPrim

def meshTopology (prim : RememberedPrim) : Reads MeshTopology :=
  Reads.remembered (.meshTopology prim.number) (prim.ask .meshTopology (·.meshTopology))

def curvesTopology (prim : RememberedPrim) : Reads CurvesTopology :=
  Reads.remembered (.curvesTopology prim.number) (prim.ask .curvesTopology (·.curvesTopology))

def meshField (prim : RememberedPrim) (type : ValueType) (field : MeshTopology → type.Content) :
    Blueprint :=
  .lazyOf type (field <$> prim.meshTopology)

def curvesField (prim : RememberedPrim) (type : ValueType) (field : CurvesTopology → type.Content) :
    Blueprint :=
  .lazyOf type (field <$> prim.curvesTopology)

def meshFaces (prim : RememberedPrim) : Container :=
  .passing ["faceVertexCounts", "faceVertexIndices", "holeIndices", "orientation"] fun name =>
    if name = "faceVertexCounts" then (prim.meshField (.array .int) (·.faceVertexCounts)).found
    else if name = "faceVertexIndices" then
      (prim.meshField (.array .int) (·.faceVertexIndices)).found
    else if name = "holeIndices" then (prim.meshField (.array .int) (·.holeIndices)).found
    else if name = "orientation" then (prim.meshField (.single .token) (·.orientation)).found
    else pure none

end RememberedPrim

def SubdivisionTags.blueprint (tags : SubdivisionTags) : Blueprint :=
  .present [("faceVaryingLinearInterpolation", .token tags.faceVaryingRule),
    ("interpolateBoundary", .token tags.vertexRule),
    ("triangleSubdivisionRule", .token tags.triangleRule),
    ("cornerIndices", .constantOf (.array .int) tags.cornerIndices),
    ("cornerSharpnesses", .constantOf (.array .float) tags.cornerWeights),
    ("creaseIndices", .constantOf (.array .int) tags.creaseIndices),
    ("creaseLengths", .constantOf (.array .int) tags.creaseLengths),
    ("creaseSharpnesses", .constantOf (.array .float) tags.creaseWeights)]

namespace RememberedPrim

def meshContainer (prim : RememberedPrim) : Container :=
  .passing ["topology", "subdivisionScheme", "subdivisionTags", "doubleSided"] fun name =>
    if name = "topology" then prim.meshFaces.found
    else if name = "subdivisionScheme" then (prim.meshField (.single .token) (·.scheme)).found
    else if name = "subdivisionTags" then do
      (← prim.ask .subdivisionTags (·.subdivisionTags)).blueprint.found
    else if name = "doubleSided" then do
      (Blueprint.truth (← prim.ask .doubleSided (·.doubleSided))).found
    else pure none

def curvesShape (prim : RememberedPrim) : Container :=
  .passing ["curveVertexCounts", "curveIndices", "basis", "type", "wrap"] fun name =>
    if name = "curveVertexCounts" then (prim.curvesField (.array .int) (·.vertexCounts)).found
    else if name = "curveIndices" then (prim.curvesField (.array .int) (·.indices)).found
    else if name = "basis" then (prim.curvesField (.single .token) (·.basis)).found
    else if name = "type" then (prim.curvesField (.single .token) (·.type)).found
    else if name = "wrap" then (prim.curvesField (.single .token) (·.wrap)).found
    else pure none

def curvesContainer (prim : RememberedPrim) : Container :=
  .passing ["topology"] fun name =>
    if name = "topology" then prim.curvesShape.found else pure none

end RememberedPrim

end LayeredScene
