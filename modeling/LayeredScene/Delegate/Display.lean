import LayeredScene.Delegate.Lazy

/-! # Display of delegate prims

How a prim is displayed and the fields of volumes. Members that say nothing beyond the default are
absent.
-/

namespace LayeredScene.ServedPrim

def displayFlag (prim : ServedPrim) (flag : DisplayStyle → Bool) : Reads (Option Source) := do
  (Blueprint.truth (flag (← prim.displayStyle))).found

def displayContainer (prim : ServedPrim) : Container :=
  .passing
    ["refineLevel", "flatShadingEnabled", "displacementEnabled", "occludedSelectionShowsThrough",
      "pointsShadingEnabled", "materialIsFinal", "shadingStyle", "reprSelector", "cullStyle"]
    fun name =>
      if name = "refineLevel" then do
        let level := (← prim.displayStyle).refineLevel
        if level ≠ 0 then (Blueprint.constantOf (.single .int) level).found else return none
      else if name = "flatShadingEnabled" then prim.displayFlag (·.flatShading)
      else if name = "displacementEnabled" then prim.displayFlag (·.displacement)
      else if name = "occludedSelectionShowsThrough" then
        prim.displayFlag (·.occludedSelectionShows)
      else if name = "pointsShadingEnabled" then prim.displayFlag (·.pointsShading)
      else if name = "materialIsFinal" then prim.displayFlag (·.materialIsFinal)
      else if name = "shadingStyle" then do
        let style ← prim.ask .shadingStyle (·.shadingStyle)
        if style.isEmpty then return none else (Blueprint.token style).found
      else if name = "reprSelector" then do
        let selector ← prim.ask .reprSelector (·.reprSelector)
        if selector.any (!·.isEmpty) then (Blueprint.constantOf (.array .token) selector).found
        else return none
      else if name = "cullStyle" then do
        match (← prim.ask .cullStyle (·.cullStyle)).name? with
        | some style => (Blueprint.token style).found
        | none => return none
      else pure none

def volumeFieldContainer (prim : ServedPrim) : Container :=
  .passing ["filePath", "fieldName", "fieldIndex", "fieldDataType", "vectorDataRoleHint"]
    fun name => do
      let value ← prim.value name
      if value.isEmpty then return none else (Blueprint.ofValue value).found

def volumeFieldBinding (prim : ServedPrim) : Reads (Option Source) := do
  let fields ← prim.ask .volumeFields (·.volumeFields)
  if fields.isEmpty then return none
  else (Blueprint.present (fields.map fun field => (field.name, .path field.path))).found

end LayeredScene.ServedPrim
