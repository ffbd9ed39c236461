import LayeredScene.Path.Basic

/-! # Scene globals

A handful of settings hold for a scene as a whole: the frame it is shown at, its frame rate, and the
prims that are active in it. A setting changes one member, and only a setting that differs from what
is there counts as a change.
-/

namespace LayeredScene

structure SceneGlobals where
  activeRenderPassPrim : Path
  activeRenderSettingsPrim : Option Path
  primaryCameraPrim : Option Path
  /-- not a number until a frame is set -/
  currentFrame : Float
  timeCodesPerSecond : Float
  sceneStateId : Int32

def defaultTimeCodesPerSecond : Float := 24

inductive GlobalSetting
  | activeRenderPassPrim (path : Path)
  | activeRenderSettingsPrim (path : Option Path)
  | primaryCameraPrim (path : Option Path)
  | currentFrame (frame : Float)
  | timeCodesPerSecond (rate : Float)
  | sceneStateId (number : Int32)

def GlobalSetting.member : GlobalSetting → Token
  | .activeRenderPassPrim _ => "activeRenderPassPrim"
  | .activeRenderSettingsPrim _ => "activeRenderSettingsPrim"
  | .primaryCameraPrim _ => "primaryCameraPrim"
  | .currentFrame _ => "currentFrame"
  | .timeCodesPerSecond _ => "timeCodesPerSecond"
  | .sceneStateId _ => "sceneStateId"

namespace SceneGlobals

def initial : SceneGlobals where
  activeRenderPassPrim := .empty
  activeRenderSettingsPrim := none
  primaryCameraPrim := none
  currentFrame := 0 / 0
  timeCodesPerSecond := defaultTimeCodesPerSecond
  sceneStateId := 0

instance : Inhabited SceneGlobals := ⟨initial⟩

def members : List Token :=
  ["activeRenderPassPrim", "activeRenderSettingsPrim", "primaryCameraPrim", "currentFrame",
    "timeCodesPerSecond", "sceneStateId"]

/-- Whether a setting says what holds already. Numbers compare as numbers; a frame that is not a
number also equals another such frame. -/
def holds (globals : SceneGlobals) : GlobalSetting → Bool
  | .activeRenderPassPrim path => globals.activeRenderPassPrim == path
  | .activeRenderSettingsPrim path => globals.activeRenderSettingsPrim == path
  | .primaryCameraPrim path => globals.primaryCameraPrim == path
  | .currentFrame frame =>
      globals.currentFrame == frame || (globals.currentFrame.isNaN && frame.isNaN)
  | .timeCodesPerSecond rate => globals.timeCodesPerSecond == rate
  | .sceneStateId number => globals.sceneStateId == number

/-- The globals with one member set. A frame rate equal to the present one leaves the present one,
so a zero keeps its sign. -/
def apply (globals : SceneGlobals) (setting : GlobalSetting) : SceneGlobals :=
  match setting with
  | .activeRenderPassPrim path => { globals with activeRenderPassPrim := path }
  | .activeRenderSettingsPrim path => { globals with activeRenderSettingsPrim := path }
  | .primaryCameraPrim path => { globals with primaryCameraPrim := path }
  | .currentFrame frame => { globals with currentFrame := frame }
  | .timeCodesPerSecond rate =>
      if globals.timeCodesPerSecond == rate then globals
      else { globals with timeCodesPerSecond := rate }
  | .sceneStateId number => { globals with sceneStateId := number }

end SceneGlobals

end LayeredScene
