import LayeredScene.PrimType
import LayeredScene.Scene.Prim
import LayeredScene.Source.Overlay
import LayeredScene.Source.Retained

/-! # Globals in a scene

Globals are published as the member `sceneGlobals` of a prim, the root unless said otherwise. What
is published follows the globals: it is looked up when it is read.
-/

namespace LayeredScene

def SceneGlobals.kindOf (member : Token) : Kind :=
  if member = "currentFrame" || member = "timeCodesPerSecond" then .double
  else if member = "sceneStateId" then .int
  else .path

def GlobalSetting.of? (member : Token) (value : Option Value) : Option GlobalSetting :=
  let path := value.bind (ValueType.single .path).extract?
  let number := value.bind (ValueType.single .double).extract?
  if member = "activeRenderPassPrim" then path.map .activeRenderPassPrim
  else if member = "activeRenderSettingsPrim" then some (.activeRenderSettingsPrim path)
  else if member = "primaryCameraPrim" then some (.primaryCameraPrim path)
  else if member = "currentFrame" then number.map .currentFrame
  else if member = "timeCodesPerSecond" then number.map .timeCodesPerSecond
  else if member = "sceneStateId" then
    (value.bind (ValueType.single .int).extract?).map .sceneStateId
  else none

/-- One member of the globals as a value. The two prims that may be unset are absent then. -/
def SceneGlobals.value? (globals : SceneGlobals) (member : Token) : Option Value :=
  if member = "activeRenderPassPrim" then some (.single .path globals.activeRenderPassPrim)
  else if member = "activeRenderSettingsPrim" then
    globals.activeRenderSettingsPrim.map (.single .path)
  else if member = "primaryCameraPrim" then globals.primaryCameraPrim.map (.single .path)
  else if member = "currentFrame" then some (.single .double globals.currentFrame)
  else if member = "timeCodesPerSecond" then some (.single .double globals.timeCodesPerSecond)
  else if member = "sceneStateId" then some (.single .int globals.sceneStateId)
  else none

def publishedGlobals (identity : Identity) (filter : Nat) : Container where
  mark := ⟨some identity, []⟩
  names := pure SceneGlobals.members
  get member := fun around store =>
    match (around.globals filter).value? member with
    | some value =>
        let made := (Blueprint.ofValue value).make around store
        (some made.1, made.2)
    | none => (none, store)

def globalsData (object filter : Nat) : Container :=
  .retained (.whole object)
    [("sceneGlobals", some (publishedGlobals ((Identity.whole object).inner 0) filter).toSource)]

structure DeclaredGlobals where
  container : Option Container

namespace DeclaredGlobals

def of (scene : Scene) (path : Path) : Reads DeclaredGlobals :=
  match (scene.prim path).data with
  | some data => do return ⟨← data.findContainer .sceneGlobals⟩
  | none => pure ⟨none⟩

def isDefined (declared : DeclaredGlobals) : Bool := declared.container.isSome

def read? (declared : DeclaredGlobals) (member : Token) (type : ValueType) :
    Reads (Option type.Content) :=
  match declared.container with
  | some holder => do
      match (← holder.get member).bind Source.sampled? with
      | some sampled => return type.extract? (← sampled.value 0)
      | none => return none
  | none => pure none

def value? (declared : DeclaredGlobals) (member : Token) : Reads (Option Value) := do
  let type := ValueType.single (SceneGlobals.kindOf member)
  return (← declared.read? member type).map type.wrap

def timeCodesPerSecond? (declared : DeclaredGlobals) : Reads (Option Float) :=
  declared.read? "timeCodesPerSecond" (.single .double)

def timeCodesPerSecond (declared : DeclaredGlobals) : Reads Float := do
  return (← declared.timeCodesPerSecond?).getD defaultTimeCodesPerSecond

end DeclaredGlobals

namespace Scene

def withGlobals (scene : Scene) (object filter : Nat) : Scene :=
  { scene with
    prim := fun path =>
      let prim := scene.prim path
      if path.isRoot then
        { prim with
          data := Container.overlayPresent none (some (globalsData object filter)) prim.data }
      else prim }

end Scene

end LayeredScene
