import LayeredScene.Network.Basic

/-! # Building networks

Indices are added on top of those that are there, listeners are registered with indices, and what is
no longer held from outside may go.
-/

namespace LayeredScene.Network

def changeNode (network : Network) (number : Nat) (change : Node → Node) : Network :=
  { network with nodes := network.nodes.modify number change }

def setIndex (network : Network) (number : Nat) (index : Index) : Network :=
  network.changeNode number fun node => { node with index := index }

def observe (network : Network) (number : Nat) (observer : Observer) : Network :=
  network.changeNode number fun node =>
    { node with observers := node.observers.add network.lives observer }

def unobserve (network : Network) (number : Nat) (observer : Observer) : Network :=
  network.changeNode number fun node =>
    { node with observers := node.observers.remove network.lives observer }

def addIndex (network : Network) (index : Index) : Nat × Network :=
  let number := network.nodes.size
  (number, { network with
    nodes := network.nodes.push ⟨index, .none⟩, handles := network.handles ++ [number] })

def addRetained (network : Network) : Nat × Network := network.addIndex (.retained .empty)

def addDelegated (network : Network) : Nat × Network := network.addIndex (.delegated .empty [])

def addMerging (network : Network) (inputs : List Nat) : Nat × Network :=
  let (number, network) := network.addIndex (.merging [])
  (number, inputs.foldl
    (fun network input =>
      match (network.node number).index with
      | .merging present =>
          (network.observe input (.index number)).setIndex number (.merging (present ++ [input]))
      | _ => network)
    network)

/-- Add a filter over an index. Unless it stays unconnected, it observes the index. -/
def addFilter (network : Network) (input : Nat) (filter : Filter) (connected : Bool) :
    Nat × Network :=
  let (number, network) := network.addIndex (.filter input filter)
  (number, if connected then network.observe input (.index number) else network)

def addGlobals (network : Network) (input : Nat) (connected : Bool) : Nat × Network :=
  let (object, network) := network.read Reads.newNumber
  network.addFilter input (.globals object .initial) connected

def letGo (network : Network) (number : Nat) : Network :=
  { network with handles := network.handles.erase number }

def addListener (network : Network) (attention : Attention) : Nat × Network :=
  (network.listeners.size,
    { network with listeners := network.listeners.push ⟨attention, true⟩ })

def dropListener (network : Network) (number : Nat) : Network :=
  { network with listeners := network.listeners.modify number fun known =>
      { known with present := false } }

def setAnswers (network : Network) (delegate : Nat) (path : Path) (answers : PrimAnswers) :
    Network :=
  { network with
    delegates := replaced network.delegates delegate
      ((network.delegates delegate).answering path answers) }

def takeAsked (network : Network) (delegate : Nat) : List Query × Network :=
  let (own, others) := network.store.asked.partition (·.1 = delegate)
  (own.map (·.2), { network with store := { network.store with asked := others } })

def hold (network : Network) (name : Token) (source : Option Source) : Network :=
  { network with
    held := (source.map (name, ·)).toList ++ network.held.filter (·.1 ≠ name) }

def held? (network : Network) (name : Token) : Option Source :=
  (network.held.find? (·.1 = name)).map (·.2)

def report (network : Network) (misuses : List Misuse) : Network :=
  { network with misuses := network.misuses ++ misuses }

end LayeredScene.Network
