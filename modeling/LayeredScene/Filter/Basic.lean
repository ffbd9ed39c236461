import LayeredScene.Filter.Motion
import LayeredScene.Filter.PathPruning
import LayeredScene.Filter.TypePruning
import LayeredScene.Scene.Globals
import LayeredScene.Scene.Notice

/-! # Filters

A filter shows one scene as another and passes on what it is told about the one as what that means
for the other. Filters and the scene indices below them go by number where data that a filter hands
out refers back to them.
-/

namespace LayeredScene

/-- What a filter does to a scene, as it is set at the moment. -/
inductive Filter
  | types (pruning : TypePruning) (enabled : Bool)
  | paths (pruning : PathPruning)
  /-- the number is that of the published container -/
  | globals (object : Nat) (globals : SceneGlobals)
  | motion

namespace Filter

def scene (filter : Filter) (number input : Nat) (below : Scene) : Scene :=
  match filter with
  | .types pruning enabled => if enabled then pruning.scene number [input] below else below
  | .paths pruning => pruning.scene below
  | .globals object _ => below.withGlobals object number
  | .motion => Motion.scene input below

def forward (filter : Filter) (batch : Batch) : Batch :=
  match filter, batch with
  | .types pruning true, .added entries =>
      .added (entries.map fun entry => (entry.1, pruning.announcedType entry.1 entry.2))
  | .paths pruning, .added entries => .added (entries.filter fun entry => !pruning.prunes entry.1)
  | .paths pruning, .removed gone => .removed (gone.filter fun path => !pruning.prunes path)
  | .paths pruning, .dirtied entries =>
      .dirtied (entries.filter fun entry => !pruning.prunes entry.1)
  | .motion, .dirtied entries =>
      .dirtied (entries.map fun entry => (entry.1, Motion.widen entry.2))
  | _, batch => batch

def followsRenames : Filter → Bool
  | .globals .. => true
  | _ => false

def respond (filter : Filter) (below : Scene) (batch : Batch) : List Batch :=
  if filter.followsRenames then [filter.forward batch]
  else (batch.withoutRenames below).map filter.forward

end Filter

end LayeredScene
