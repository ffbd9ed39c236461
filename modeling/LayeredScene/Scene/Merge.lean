import LayeredScene.Scene.Prim
import LayeredScene.Source.Overlay

/-! # Merged scenes

Several scenes seen as one, the strongest first: a prim has the first type that is not empty, and
the overlay of all data there is for it; its children are those of all scenes in order of first
mention.
-/

namespace LayeredScene.Scene

def mergedPrim (scenes : List Scene) (path : Path) : Prim :=
  let prims := scenes.map (·.prim path)
  { type := ((prims.map (·.type)).find? (!·.isEmpty)).getD "",
    data := Container.overlayAll (prims.filterMap (·.data)) }

def unitePaths (seen : List Path) : List Path → List Path
  | [] => seen
  | path :: rest => unitePaths (if seen.contains path then seen else seen ++ [path]) rest

/-- Several scenes as one, the strongest first. -/
def merge (scenes : List Scene) : Scene where
  prim := mergedPrim scenes
  children path := scenes.foldl (fun seen scene => unitePaths seen (scene.children path)) []
  height := scenes.foldl (fun most scene => max most scene.height) 0

end LayeredScene.Scene
