import LayeredScene.Locator.Set
import LayeredScene.Scene.Prim

/-! # Notices

A scene tells those who watch it what has changed, in batches of one kind each. Prims are added,
removed with all below them, dirtied in places of their data, or renamed. Who does not follow
renames is told of them as removals and additions.
-/

namespace LayeredScene

inductive Batch
  | added (entries : List (Path × Token))
  | removed (paths : List Path)
  | dirtied (entries : List (Path × LocatorSet))
  /-- the path before and the path after -/
  | renamed (entries : List (Path × Path))
deriving DecidableEq, Repr

namespace Batch

def kind : Batch → String
  | .added _ => "added"
  | .removed _ => "removed"
  | .dirtied _ => "dirtied"
  | .renamed _ => "renamed"

def isEmpty : Batch → Bool
  | .added entries => entries.isEmpty
  | .removed paths => paths.isEmpty
  | .dirtied entries => entries.isEmpty
  | .renamed entries => entries.isEmpty

def renamedAway (entries : List (Path × Path)) : List Path := entries.map (·.1)

def renamedInto (scene : Scene) (entries : List (Path × Path)) : List (Path × Token) :=
  entries.flatMap fun entry => (scene.under entry.2).map scene.typed

/-- A batch without renames: what is renamed in a scene is removed, and what is there under the new
name is added. -/
def withoutRenames (scene : Scene) : Batch → List Batch
  | .renamed entries => [.removed (renamedAway entries), .added (renamedInto scene entries)]
  | batch => [batch]

end Batch

end LayeredScene
