import LayeredScene.Path.Cover
import LayeredScene.Scene.Prim

/-! # Pruning by path

A path filter leaves out some subtrees: their prims are blank, and no prim has one of them among its
children. The excluded paths are kept as a smallest cover, so one look-up decides whether a path is
left out.
-/

namespace LayeredScene

structure PathPruning where
  cover : Array Path
  isCover : Path.IsCover cover.toList
deriving DecidableEq

namespace PathPruning

/-- The filter that leaves out what lies under any of the paths. Nothing lies under the empty path.
-/
def ofPaths (paths : List Path) : PathPruning where
  cover := (Path.minimalCover (paths.filter (!·.isEmpty))).toArray
  isCover := Path.isCover_minimalCover _

instance : Inhabited PathPruning := ⟨ofPaths []⟩

def paths (pruning : PathPruning) : List Path := pruning.cover.toList

def prunes (pruning : PathPruning) (path : Path) : Bool := path.liesUnderCover pruning.cover

def scene (pruning : PathPruning) (input : Scene) : Scene where
  prim path := if pruning.prunes path then .blank else input.prim path
  children path :=
    if pruning.prunes path then []
    else (input.children path).filter fun child => !pruning.prunes child
  height := input.height

def coveredBy (others : List Path) (path : Path) : Bool := others.any (path.liesUnder ·)

/-- The prims that come into view when a filter changes, with their types: what lies under the paths
left out before that are no longer, as far as the scene has them. -/
def exposed (before after : PathPruning) (input : Scene) : List (Path × Token) :=
  let freed := before.paths.filter fun path => !coveredBy after.paths path
  (freed.filter input.lists).flatMap fun path =>
    ((after.scene input).under path).map input.typed

def hidden (before after : PathPruning) : List Path :=
  after.paths.filter fun path => !coveredBy before.paths path

def ofArguments : Option Container → Reads (List Path)
  | none => pure []
  | some arguments => do
      match ← arguments.findSampled ⟨["excludePathPrefixes"]⟩ with
      | some sampled => sampled.read (.array .path) 0
      | none => return []

end PathPruning

end LayeredScene
