import LayeredScene.Delegate.Lazy
import LayeredScene.Delegate.Material
import LayeredScene.Source.Dictionary

/-! # Rendering by delegates

Render buffers, render settings with their products, and the prims that hold a render resource.
-/

namespace LayeredScene

def ServedPrim.renderBufferContainer (prim : ServedPrim) : Container :=
  .passing ["dimensions", "format", "multiSampled"] fun name =>
    if name = "dimensions" then do
      (Blueprint.constantOf (.single .int3) (← prim.renderBuffer).dimensions).found
    else if name = "format" then do (Blueprint.token (← prim.renderBuffer).format).found
    else if name = "multiSampled" then do
      (Blueprint.truth (← prim.renderBuffer).multiSampled).found
    else (Blueprint.lazy (prim.value name)).found

def renderVarBlueprint (var : RenderVar) : Blueprint :=
  .present [("path", .path var.path),
    ("dataType", .token var.dataType),
    ("sourceName", .constantOf (.single .string) var.sourceName),
    ("sourceType", .token var.sourceType),
    ("namespacedSettings", .ofDictionary var.settings)]

def renderProductBlueprint (product : RenderProduct) : Blueprint :=
  .present [("path", .path product.path),
    ("type", .token product.type),
    ("name", .token product.name),
    ("resolution", .constantOf (.single .int2) product.resolution),
    ("renderVars", .elements (product.vars.map fun var => some (renderVarBlueprint var))),
    ("cameraPrim", .path product.camera),
    ("pixelAspectRatio", .constantOf (.single .float) product.pixelAspectRatio),
    ("aspectRatioConformPolicy", .token product.conformPolicy),
    ("apertureSize", .constantOf (.single .float2) product.apertureSize),
    ("dataWindowNDC", .constantOf (.single .float4) product.dataWindow),
    ("disableMotionBlur", .truth product.disableMotionBlur),
    ("disableDepthOfField", .truth product.disableDepthOfField),
    ("namespacedSettings", .ofDictionary product.settings)]

/-- What becomes of the value that a delegate has under a name of the render settings. The settings
with a meaning of their own are absent unless the value is of their type; any other value is passed
on as it is. -/
def renderSetting? (name : Token) (value : Value) : Option Blueprint :=
  if name = "namespacedSettings" then
    match value with
    | .dictionary entries => some (.ofDictionary entries)
    | _ => none
  else if name = "renderProducts" then
    match value with
    | .foreign (.renderProducts products) =>
        some (.elements (products.map fun product => some (renderProductBlueprint product)))
    | _ => none
  else if name = "includedPurposes" || name = "materialBindingPurposes" then
    match value with
    | .array .token _ => some (.ofValue value)
    | _ => none
  else if name = "renderingColorSpace" then
    match value with
    | .single .token _ => some (.ofValue value)
    | _ => none
  else some (.constant value)

namespace ServedPrim

def renderSettingsContainer (prim : ServedPrim) : Container :=
  .passing
    ["namespacedSettings", "renderProducts", "includedPurposes", "materialBindingPurposes",
      "renderingColorSpace"]
    fun name => do
      match renderSetting? name (← prim.value name) with
      | some blueprint => blueprint.found
      | none => return none

def renderResource (prim : ServedPrim) : Reads (Option Source) := do
  let value ← prim.value "resource"
  let resource : Option Blueprint :=
    match value with
    | .foreign (.materialNode node) => some (nodeBlueprint node [])
    | .empty => none
    | _ => some (.constant value)
  match resource with
  | some resource => (Blueprint.present [("resource", resource)]).found
  | none => return none

def drawTargetContainer (prim : ServedPrim) : Container :=
  prim.answers
    ["camera", "collection", "drawTargetSet", "enable", "resolution", "aovBindings",
      "depthPriority"]

end ServedPrim

end LayeredScene
