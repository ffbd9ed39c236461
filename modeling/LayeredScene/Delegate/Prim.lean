import LayeredScene.Delegate.Camera
import LayeredScene.Delegate.Computation
import LayeredScene.Delegate.Display
import LayeredScene.Delegate.Instancer
import LayeredScene.Delegate.Light
import LayeredScene.Delegate.Primvars
import LayeredScene.Delegate.Render
import LayeredScene.Delegate.Topology
import LayeredScene.PrimType
import LayeredScene.Source.Overlay
import LayeredScene.Text.Affixes

/-! # Prims of delegates

The data of a prim that a delegate serves. Which members it lists depends on its type; it answers to
any member by name, listed or not. The descriptions of primvars, the instancer topology and the
topology of meshes and curves are remembered until they are said to have changed.
-/

namespace LayeredScene

structure DelegatedPrim extends RememberedPrim where
  type : Token

namespace DelegatedPrim

def rememberedPlaces (type : Token) : LocatorSet :=
  .ofList ([.primvars, .computedPrimvars, .instancerTopology] ++
    (if type = "mesh" then [.mesh] else []) ++ (if type = "basisCurves" then [.curves] else []))

/-- What is left of the memory of a prim once some places are said to have changed. -/
def forget (memory : PrimMemory) (changed : LocatorSet) : PrimMemory where
  primvars :=
    if changed.meetsLocator .primvars then memory.primvars.invalidate else memory.primvars
  computedPrimvars :=
    if changed.meetsLocator .computedPrimvars then memory.computedPrimvars.invalidate
    else memory.computedPrimvars
  instancerTopology :=
    if changed.meetsLocator .instancerTopology then memory.instancerTopology.invalidate
    else memory.instancerTopology
  meshTopology :=
    if changed.meetsLocator .mesh then memory.meshTopology.invalidate else memory.meshTopology
  curvesTopology :=
    if changed.meetsLocator .curves then memory.curvesTopology.invalidate else memory.curvesTopology

/-- Forget what is remembered in places that have changed. -/
def dirtied (prim : DelegatedPrim) (changed : LocatorSet) (store : Store) : Store :=
  { store with
    prims := replaced store.prims prim.number (forget (store.prims prim.number) changed) }

def isLight (prim : DelegatedPrim) : Reads Bool :=
  if PrimType.isLight prim.type then pure true
  else (ValueType.single .bool).read <$> prim.lightParameter "isLight"

def isInstanceable (prim : DelegatedPrim) : Bool :=
  PrimType.isGeometry prim.type || PrimType.isLight prim.type || prim.type = "instancer"

def ownNames (type : Token) : List Token :=
  if type = "renderBuffer" then ["renderBuffer"]
  else if type = "renderSettings" then ["renderSettings"]
  else if type = "integrator" then ["integrator"]
  else if type = "sampleFilter" then ["sampleFilter"]
  else if type = "displayFilter" then ["displayFilter"]
  else if type = "volume" then ["volumeFieldBinding"]
  else if type = "extComputation" then ["extComputation"]
  else if type = "coordSys" then ["xform"]
  else if type = "drawTarget" then ["drawTarget"]
  else if PrimType.isVolumeField type then ["volumeField"]
  else []

def listedNames (prim : DelegatedPrim) (isLight : Bool) : List Token :=
  Container.uniteNames [] (
    (if prim.type = "mesh" then ["mesh"]
      else if prim.type = "basisCurves" then ["basisCurves"] else []) ++
    ["primvars"] ++
    (if PrimType.isGeometry prim.type then
      ["extComputationPrimvars", "materialBindings", "displayStyle", "coordSysBinding", "purpose",
        "visibility", "categories", "xform", "extent"] else []) ++
    (if isLight || prim.type = "lightFilter" then ["material", "xform", "light", "collections"]
      else if prim.type = "material" then ["material"] else []) ++
    (if prim.type = "instancer" then
      ["xform", "instancerTopology", "instanceCategories", "categories"] else []) ++
    (if prim.isInstanceable then ["instancedBy"] else []) ++
    (if prim.type = "camera" then ["camera", "xform"] else []) ++
    ownNames prim.type ++
    ["sceneDelegate"])

def primvars (prim : DelegatedPrim) : Reads (Option Source) := do
  let described ← Reads.remembered (.primvars prim.number) do
    let descriptors ← prim.describePrimvars
    return ⟨← Reads.newNumber, descriptors⟩
  (prim.primvarsContainer described).found

def computedPrimvars (prim : DelegatedPrim) : Reads (Option Source) := do
  let described ← Reads.remembered (.computedPrimvars prim.number) do
    let descriptors ← prim.describeComputedPrimvars
    return ⟨← Reads.newNumber, descriptors⟩
  (computedPrimvarsContainer described).found

/-- The instancer topology; its container is made once. -/
def topologyOfInstancer (prim : DelegatedPrim) : Reads (Option Source) := do
  let number ← Reads.remembered (.instancerTopology prim.number) Reads.newNumber
  (prim.toServedPrim.instancerTopology number).found

/-- Where the prim is. It is not moved by what is above it. -/
def xform (prim : DelegatedPrim) : Reads (Option Source) := do
  let number ← Reads.newNumber
  (Blueprint.present
    [("matrix", prim.transformMatrix (prim.type = "instancer") number),
      ("resetXformStack", .truth true)]).found

def extent (prim : DelegatedPrim) : Reads (Option Source) := do
  let box ← prim.ask .extent (·.extent)
  (Blueprint.present [("min", .constantOf (.single .double3) box.min),
    ("max", .constantOf (.single .double3) box.max)]).found

def categories (prim : DelegatedPrim) : Reads (Option Source) := do
  let categories ← prim.ask .categories (·.categories)
  if categories.isEmpty then return none else (categoriesBlueprint categories).found

def instancedBy (prim : DelegatedPrim) : Reads (Option Source) := do
  let instancer ← prim.ask .instancer (·.instancer)
  if instancer.isEmpty then return none
  else (Blueprint.present [("paths", .constantOf (.array .path) [instancer])]).found

/-- The name that a coordinate system is bound to, from the name of the relationship that binds it.
-/
def coordinateSystemName (name : Token) : Token :=
  Text.withoutEnding ":binding" (Text.withoutStart "coordSys:" name)

def coordSysBinding (prim : DelegatedPrim) : Reads (Option Source) := do
  let systems ← prim.ask .coordinateSystems (·.coordinateSystems)
  if systems.isEmpty then return none
  else
    (Blueprint.present (systems.map fun path =>
      (coordinateSystemName path.name, .path path))).found

def boundMaterial (prim : DelegatedPrim) : Reads (Option Source) := do
  let material ← prim.ask .material (·.material)
  if material.isEmpty then return none else (materialBindings material).found

def material (prim : DelegatedPrim) : Reads (Option Source) := do
  match ← prim.ask .materialResource (·.materialResource) with
  | some networks => (materialBlueprint networks).found
  | none => return none

def collections (prim : DelegatedPrim) : Reads (Option Source) := do
  if ← prim.isLight then prim.lightCollections.found
  else if prim.type = "lightFilter" then prim.filterCollections.found
  else return none

/-- The member of a name. Only the topologies and the collections look at the type of the prim. -/
def member (prim : DelegatedPrim) (name : Token) : Reads (Option Source) :=
  if name = "primvars" then prim.primvars
  else if name = "extComputationPrimvars" then prim.computedPrimvars
  else if name = "mesh" then
    if prim.type = "mesh" then prim.meshContainer.found else pure none
  else if name = "basisCurves" then
    if prim.type = "basisCurves" then prim.curvesContainer.found else pure none
  else if name = "xform" then prim.xform
  else if name = "visibility" then do
    (Blueprint.present [("visibility", .truth (← prim.ask .visible (·.visible)))]).found
  else if name = "purpose" then do
    (Blueprint.present [("purpose", .token (← prim.ask .renderTag (·.renderTag)))]).found
  else if name = "extent" then prim.extent
  else if name = "categories" then prim.categories
  else if name = "instancedBy" then prim.instancedBy
  else if name = "coordSysBinding" then prim.coordSysBinding
  else if name = "materialBindings" then prim.boundMaterial
  else if name = "material" then prim.material
  else if name = "displayStyle" then prim.displayContainer.found
  else if name = "light" then prim.lightContainer.found
  else if name = "collections" then prim.collections
  else if name = "camera" then prim.cameraContainer.found
  else if name = "renderBuffer" then prim.renderBufferContainer.found
  else if name = "renderSettings" then prim.renderSettingsContainer.found
  else if name = "integrator" || name = "sampleFilter" || name = "displayFilter" then
    prim.renderResource
  else if name = "instancerTopology" then prim.topologyOfInstancer
  else if name = "instanceCategories" then prim.instanceCategoriesContainer.found
  else if name = "volumeField" then prim.volumeFieldContainer.found
  else if name = "volumeFieldBinding" then prim.volumeFieldBinding
  else if name = "extComputation" then prim.computationContainer.found
  else if name = "drawTarget" then prim.drawTargetContainer.found
  else if name = "sceneDelegate" then
    (Blueprint.constant (.foreign (.delegate prim.delegate))).found
  else pure none

def data (prim : DelegatedPrim) : Container where
  mark := .passing
  names := prim.listedNames <$> prim.isLight
  get := prim.member

end DelegatedPrim

end LayeredScene
