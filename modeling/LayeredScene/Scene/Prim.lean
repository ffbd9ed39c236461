import LayeredScene.Source.Walk

/-! # Prims and scenes

A scene maps paths to prims. A prim has a type and, unless nothing was authored for it, a container
with its data. A path that the scene knows nothing about still has a prim, one without type and
data.
-/

namespace LayeredScene

structure Prim where
  /-- empty for prims without a type -/
  type : Token
  data : Option Container

namespace Prim

def blank : Prim := ⟨"", none⟩

instance : Inhabited Prim := ⟨blank⟩

def isBlank (prim : Prim) : Bool := prim.type.isEmpty && prim.data.isNone

end Prim

/-- A scene to look at: its prims, the children of every prim, and how many levels of children there
are at most. -/
structure Scene where
  prim : Path → Prim
  children : Path → List Path
  height : Nat

namespace Scene

def bare : Scene := ⟨fun _ => .blank, fun _ => [], 0⟩

instance : Inhabited Scene := ⟨bare⟩

def hasChild (scene : Scene) (path : Path) : Bool := (scene.children path.parent).contains path

/-- Whether a scene has a prim at a path. The root is in every scene. -/
def lists (scene : Scene) (path : Path) : Bool := path.isRoot || scene.hasChild path

/-- The paths met going down from a path for so many levels: the path first, then what lies below
its children, child by child. Below a path that `skips` says, nothing is met. -/
def descend (children : Path → List Path) (skips : Path → Bool) : (levels : Nat) → Path → List Path
  | 0, path => [path]
  | levels + 1, path =>
      path :: if skips path then []
        else (children path).flatMap (descend children skips levels)

def under (scene : Scene) (path : Path) : List Path :=
  descend scene.children (fun _ => false) scene.height path

def underSkipping (scene : Scene) (skips : Path → Bool) (path : Path) : List Path :=
  descend scene.children skips scene.height path

def typed (scene : Scene) (path : Path) : Path × Token := (path, (scene.prim path).type)

end Scene

end LayeredScene
