import LayeredScene.Delegate.Prim
import LayeredScene.Filter.Basic
import LayeredScene.Network.Observers
import LayeredScene.Path.Growth
import LayeredScene.Scene.MergeNotices
import LayeredScene.Scene.Table
import LayeredScene.Source.Survey

/-! # Networks of scene indices

A scene index holds prims, or shows those of other indices in its own way. Indices form a network:
filters and merging indices stand on others, and everyone is told of changes by those they stand on.
A network also holds what is read from delegates, and what listeners have heard.

Indices, listeners and delegates go by number, in the order they came.
-/

namespace LayeredScene

inductive Index
  /-- prims with the data they were added with -/
  | retained (table : PrimTable)
  /-- prims of which some are served by delegates -/
  | delegated (table : PrimTable) (served : List (Path × DelegatedPrim))
  /-- several indices as one, the strongest first -/
  | merging (inputs : List Nat)
  | filter (input : Nat) (filter : Filter)

def Index.inputs : Index → List Nat
  | .merging inputs => inputs
  | .filter input _ => [input]
  | _ => []

def Index.displayName : Index → String
  | .retained _ => "RetainedSceneIndex"
  | .delegated .. => "LegacyPrimSceneIndex"
  | .merging _ => "MergingSceneIndex"
  | .filter _ (.types ..) => "PrimTypePruningSceneIndex"
  | .filter _ (.paths _) => "PrefixPathPruningSceneIndex"
  | .filter _ (.globals ..) => "SceneGlobalsSceneIndex"
  | .filter _ .motion => "VelocityMotionResolvingSceneIndex"

inductive Observer
  | index (number : Nat)
  | listener (number : Nat)
deriving DecidableEq, Repr

inductive Attention
  /-- takes renames as removals and additions -/
  | plain
  /-- takes renames as such -/
  | renames
  /-- listens plainly, and looks at the prims it is told about -/
  | looks
deriving DecidableEq, Repr

structure Listener where
  attention : Attention
  present : Bool

structure Sampling where
  values : List Value
  types : List ValueType

def Sampled.casts (sampled : Sampled) : List ValueType :=
  ValueType.all.filter fun type => (sampled.cast? type).isSome

def Sampled.sampling (times : List Float32) (sampled : Sampled) : Reads Sampling := do
  return ⟨← Reads.each sampled.value times, sampled.casts⟩

inductive Sight
  | nothing
  | added (prims : List Prim)
  /-- the prims as they are now, and the children of the ones above them -/
  | removed (prims : List (Prim × List Path))
  /-- what is at the dirtied places -/
  | dirtied (places : List (List (Option (Outline Sampling))))

structure Heard where
  listener : Nat
  sender : Nat
  batch : Batch
  sight : Sight

structure Node where
  index : Index
  observers : Observers Observer

instance : Inhabited Node := ⟨⟨.retained .empty, .none⟩⟩

structure Network where
  nodes : Array Node
  /-- the indices that someone outside holds on to -/
  handles : List Nat
  listeners : Array Listener
  delegates : Nat → Delegate
  store : Store
  /-- the data sources that someone outside holds on to, by name -/
  held : List (Token × Source)
  heard : List Heard
  misuses : List Misuse

namespace Network

def empty : Network where
  nodes := #[]
  handles := []
  listeners := #[]
  delegates _ := .silent
  store := .blank
  held := []
  heard := []
  misuses := []

instance : Inhabited Network := ⟨empty⟩

def node (network : Network) (number : Nat) : Node := network.nodes[number]?.getD default

def sceneThrough (network : Network) : (levels : Nat) → Nat → Scene
  | 0, _ => .bare
  | levels + 1, number =>
      match (network.node number).index with
      | .retained table => table.scene
      | .delegated table _ => table.scene
      | .merging inputs => .merge (inputs.map (network.sceneThrough levels))
      | .filter input filter => filter.scene number input (network.sceneThrough levels input)

def levels (network : Network) : Nat := network.nodes.size

def scene (network : Network) (number : Nat) : Scene := network.sceneThrough network.levels number

def hides (network : Network) (number : Nat) (path : Path) : Bool :=
  match (network.node number).index with
  | .filter input (.types pruning true) => pruning.prunesTarget (network.scene input) path
  | _ => false

def globals (network : Network) (number : Nat) : SceneGlobals :=
  match (network.node number).index with
  | .filter _ (.globals _ globals) => globals
  | _ => .initial

/-- What readings consult, as far as reading one frame rate takes reading others so many times. -/
def surroundingsThrough (network : Network) : (levels : Nat) → Surroundings
  | 0 => { Surroundings.bare with
      delegates := network.delegates, hides := network.hides, globals := network.globals }
  | levels + 1 => {
      delegates := network.delegates
      hides := network.hides
      globals := network.globals
      frameRate := fun number =>
        (do (← DeclaredGlobals.of (network.scene number) .root).timeCodesPerSecond).run
          (network.surroundingsThrough levels) }

def surroundings (network : Network) : Surroundings := network.surroundingsThrough network.levels

def read {α : Type} (network : Network) (reading : Reads α) : α × Network :=
  let (result, store) := reading.run network.surroundings network.store
  (result, { network with store := store })

/-- The indices that some indices stand on, directly or through so many others, and they
themselves. -/
def standingOn (network : Network) : (levels : Nat) → List Nat → List Nat
  | 0, numbers => numbers
  | levels + 1, numbers =>
      numbers ++ network.standingOn levels (numbers.flatMap fun number =>
        (network.node number).index.inputs)

/-- The indices that are there still: those held from outside, those that held data comes from, and
all that they stand on. -/
def present (network : Network) : List Nat :=
  network.standingOn network.levels
    (network.handles ++ network.held.flatMap fun entry => entry.2.keeps)

def lives (network : Network) : Observer → Bool
  | .index number => network.present.contains number
  | .listener number => (network.listeners[number]?.map (·.present)).getD false

def liveObservers (network : Network) (number : Nat) : List Observer :=
  (network.node number).observers.live network.lives

def isObserved (network : Network) (number : Nat) : Bool :=
  (network.node number).observers.isObserved network.lives

end Network

end LayeredScene
