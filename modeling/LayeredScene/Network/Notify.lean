import LayeredScene.Network.Basic

/-! # Passing on notices

A batch goes to all who observe the sender, one after the other. An index that hears it sends what
the batch means for its own scene before the next observer is told. Empty batches go nowhere.
-/

namespace LayeredScene.Network

def lookAt (scene : Scene) (path : Path) (places : LocatorSet) :
    Reads (List (Option (Outline Sampling))) :=
  Reads.each
    (fun place =>
      match (scene.prim path).data with
      | some data => do Source.outline (Sampled.sampling [0]) (← data.find place)
      | none => pure none)
    places.members

def sightOf (scene : Scene) : Batch → Reads Sight
  | .added entries => pure (.added (entries.map fun entry => scene.prim entry.1))
  | .removed paths =>
      pure (.removed (paths.map fun path => (scene.prim path, scene.children path.parent)))
  | .dirtied entries => .dirtied <$> Reads.each (fun entry => lookAt scene entry.1 entry.2) entries
  | .renamed _ => pure .nothing

def taken (attention : Attention) (scene : Scene) (batch : Batch) : List Batch :=
  if attention = .renames then [batch] else batch.withoutRenames scene

def hearOne (listener sender : Nat) (attention : Attention) (network : Network) (batch : Batch) :
    Network :=
  if batch.isEmpty then network
  else
    let (sight, network) :=
      if attention = .looks then network.read (sightOf (network.scene sender) batch)
      else (.nothing, network)
    { network with heard := network.heard ++ [⟨listener, sender, batch, sight⟩] }

def hear (network : Network) (listener sender : Nat) (batch : Batch) : Network :=
  match network.listeners[listener]? with
  | some known =>
      (taken known.attention (network.scene sender) batch).foldl
        (hearOne listener sender known.attention) network
  | none => network

/-- What an index sends on hearing a batch. -/
def responses (network : Network) (number sender : Nat) (batch : Batch) : List Batch :=
  match (network.node number).index with
  | .filter _ filter => filter.respond (network.scene sender) batch
  | .merging inputs =>
      (batch.withoutRenames (network.scene sender)).flatMap
        (Scene.mergedResponse (inputs.map network.scene)
          ((inputs.filter (· ≠ sender)).map network.scene))
  | _ => []

def tell (sends : Network → Nat → Batch → Network) (sender : Nat) (batch : Batch)
    (network : Network) : Observer → Network
  | .listener number => network.hear number sender batch
  | .index number =>
      (network.responses number sender batch).foldl (fun network response =>
        sends network number response) network

/-- Send a batch to all who observe an index, and on through at most so many indices. -/
def sendThrough : (levels : Nat) → Network → (sender : Nat) → Batch → Network
  | levels, network, sender, batch =>
      if batch.isEmpty then network
      else
        match levels with
        | 0 => network
        | levels + 1 =>
            (network.liveObservers sender).foldl (tell (sendThrough levels) sender batch) network

def send (network : Network) (sender : Nat) (batch : Batch) : Network :=
  sendThrough network.levels network sender batch

end LayeredScene.Network
