import LayeredScene.Network.Build
import LayeredScene.Network.Notify

/-! # Editing scenes

Edits of stored prims and of the settings of filters and merging indices. Whoever observes the
edited index is told what has changed, after the change is made.
-/

namespace LayeredScene

abbrev PrimEntries := List (Path × Prim)

def PrimTable.insertAll (table : PrimTable) (entries : PrimEntries) : PrimTable × List Misuse :=
  entries.foldl
    (fun (table, misuses) entry =>
      (table.inserted entry.1 entry.2, misuses ++ misuseOf (table.insert entry.1 entry.2)))
    (table, [])

def PrimTable.removeAll (table : PrimTable) (paths : List Path) : PrimTable × List Path :=
  paths.foldl
    (fun (table, gone) path =>
      let (table, removed) := table.removeSubtree path
      (table, if removed then gone ++ [path] else gone))
    (table, [])

def announced (entries : PrimEntries) : Batch :=
  .added (entries.map fun entry => (entry.1, entry.2.type))

namespace Network

/-- Store prims in an index of stored prims. In place of a prim that a delegate serves, the new one
is served by none. -/
def addPrims (network : Network) (number : Nat) (entries : PrimEntries) : Network :=
  match (network.node number).index with
  | .retained table =>
      let (table, misuses) := table.insertAll entries
      ((network.setIndex number (.retained table)).report misuses).send number (announced entries)
  | .delegated table served =>
      let (table, misuses) := table.insertAll entries
      let served := served.filter fun known => !(entries.map (·.1)).contains known.1
      ((network.setIndex number (.delegated table served)).report misuses).send number
        (announced entries)
  | _ => network

def addServed (network : Network) (number : Nat) (path : Path) (type : Token) (delegate : Nat) :
    Network :=
  match (network.node number).index with
  | .delegated table served =>
      let (memory, network) := network.read Reads.newNumber
      let prim : DelegatedPrim := ⟨⟨⟨delegate, path⟩, memory⟩, type⟩
      let stored : Prim := ⟨type, some prim.data⟩
      let served := (path, prim) :: served.filter (·.1 ≠ path)
      ((network.setIndex number (.delegated (table.inserted path stored) served)).report
        (misuseOf (table.insert path stored))).send number (.added [(path, type)])
  | _ => network

def servedPrim? (network : Network) (number : Nat) (path : Path) : Option DelegatedPrim :=
  match (network.node number).index with
  | .delegated _ served => (served.find? (·.1 = path)).map (·.2)
  | _ => none

def removePrims (network : Network) (number : Nat) (paths : List Path) : Network :=
  match (network.node number).index with
  | .retained table =>
      let (table, gone) := table.removeAll paths
      (network.setIndex number (.retained table)).send number (.removed gone)
  | .delegated table served =>
      let (table, gone) := table.removeAll paths
      let served := served.filter fun known => !gone.any (known.1.liesUnder ·)
      (network.setIndex number (.delegated table served)).send number (.removed gone)
  | _ => network

/-- Say that the data of prims has changed. What is remembered about prims of delegates is forgotten
before anyone is told. -/
def dirtyPrims (network : Network) (number : Nat) (entries : List (Path × LocatorSet)) : Network :=
  let store := entries.foldl
    (fun store entry =>
      match network.servedPrim? number entry.1 with
      | some prim => prim.dirtied entry.2 store
      | none => store)
    network.store
  { network with store := store }.send number (.dirtied entries)

def join (network : Network) (number input : Nat) : Network :=
  match (network.node number).index with
  | .merging inputs =>
      let network := (network.observe input (.index number)).setIndex number
        (.merging (inputs ++ [input]))
      if network.isObserved number then
        network.send number (.added (Scene.announcedByJoining
          ((inputs ++ [input]).map network.scene) (network.scene input)))
      else network
  | _ => network

/-- Take an index away from below a merging one. An index that is there several times stays the
other times, but is no longer observed. -/
def leave (network : Network) (number input : Nat) : Network :=
  match (network.node number).index with
  | .merging inputs =>
      if inputs.contains input then
        let leaving := network.scene input
        let rest := inputs.erase input
        let network := (network.setIndex number (.merging rest)).unobserve input (.index number)
        if network.isObserved number then
          network.send number (.removed (Scene.lostByLeaving (rest.map network.scene) leaving))
        else network
      else network
  | _ => network

/-- Switch a type filter on or off. Nobody is told. -/
def setEnabled (network : Network) (number : Nat) (enabled : Bool) : Network :=
  match (network.node number).index with
  | .filter input (.types pruning _) =>
      network.setIndex number (.filter input (.types pruning enabled))
  | _ => network

/-- Let a path filter leave out other paths. What comes into view is announced before what goes out
of it. -/
def setExcluded (network : Network) (number : Nat) (paths : List Path) : Network :=
  match (network.node number).index with
  | .filter input (.paths before) =>
      let after := PathPruning.ofPaths paths
      if before = after then network
      else
        let network := network.setIndex number (.filter input (.paths after))
        if network.isObserved number then
          (network.send number
              (.added (PathPruning.exposed before after (network.scene input)))).send number
            (.removed (PathPruning.hidden before after))
        else network
  | _ => network

/-- Set one of the globals that a filter publishes. Those who watch are told unless it held before.
-/
def setGlobal (network : Network) (number : Nat) (setting : GlobalSetting) : Network :=
  match (network.node number).index with
  | .filter input (.globals object globals) =>
      let network := network.setIndex number
        (.filter input (.globals object (globals.apply setting)))
      if globals.holds setting then network
      else network.send number
        (.dirtied [(.root, .single (.sceneGlobal setting.member))])
  | _ => network

end Network

end LayeredScene
