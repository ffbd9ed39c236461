import LayeredScene.Network.Edit

/-! # What sending leaves alone

A batch that goes through a network changes what has been heard and what readings remember. The
indices, their observers and the listeners stay as they were, and so do the scenes. Who is told of a
batch depends on less: on which index stands on which, not on what they are.
-/

namespace LayeredScene.Network

variable {before after network : Network}

theorem isObserved_of_mem_liveObservers {number : Nat} {observer : Observer}
    (observes : observer ∈ network.liveObservers number) : network.isObserved number = true :=
  List.any_eq_true.mpr ⟨observer, List.mem_filter.mp observes⟩

theorem standingOn_of_inputs
    (inputs : ∀ number, (after.node number).index.inputs = (before.node number).index.inputs)
    (levels : Nat) : after.standingOn levels = before.standingOn levels := by
  induction levels with
  | zero => rfl
  | succ levels induction =>
      funext numbers
      simp only [standingOn, inputs, induction]

theorem lives_of_inputs (levels : after.levels = before.levels)
    (inputs : ∀ number, (after.node number).index.inputs = (before.node number).index.inputs)
    (handles : after.handles = before.handles) (listeners : after.listeners = before.listeners)
    (held : after.held = before.held) : after.lives = before.lives := by
  funext observer
  cases observer with
  | index number =>
      simp only [lives, present, levels, standingOn_of_inputs inputs, handles, held]
  | listener number => simp only [lives, listeners]

structure SameShape (before after : Network) : Prop where
  levels : after.levels = before.levels
  inputs : ∀ number, (after.node number).index.inputs = (before.node number).index.inputs
  observers : ∀ number, (after.node number).observers = (before.node number).observers
  handles : after.handles = before.handles
  listeners : after.listeners = before.listeners
  held : after.held = before.held

namespace SameShape

theorem trans {last : Network} (first : before.SameShape after) (second : after.SameShape last) :
    before.SameShape last where
  levels := second.levels.trans first.levels
  inputs number := (second.inputs number).trans (first.inputs number)
  observers number := (second.observers number).trans (first.observers number)
  handles := second.handles.trans first.handles
  listeners := second.listeners.trans first.listeners
  held := second.held.trans first.held

theorem lives (same : before.SameShape after) : after.lives = before.lives :=
  lives_of_inputs same.levels same.inputs same.handles same.listeners same.held

theorem liveObservers (same : before.SameShape after) :
    after.liveObservers = before.liveObservers := by
  funext number
  rw [Network.liveObservers, same.observers, same.lives, Network.liveObservers]

end SameShape

structure SameWiring (before after : Network) : Prop where
  nodes : after.nodes = before.nodes
  handles : after.handles = before.handles
  listeners : after.listeners = before.listeners
  held : after.held = before.held

namespace SameWiring

theorem refl (network : Network) : network.SameWiring network := ⟨rfl, rfl, rfl, rfl⟩

theorem trans {last : Network} (first : before.SameWiring after) (second : after.SameWiring last) :
    before.SameWiring last :=
  ⟨second.nodes.trans first.nodes, second.handles.trans first.handles,
    second.listeners.trans first.listeners, second.held.trans first.held⟩

theorem foldl {α : Type} {step : Network → α → Network}
    (same : ∀ (network : Network) (item : α), network.SameWiring (step network item))
    (items : List α) (network : Network) : network.SameWiring (items.foldl step network) := by
  induction items generalizing network with
  | nil => exact refl network
  | cons item items induction => exact (same network item).trans (induction (step network item))

theorem node (same : before.SameWiring after) (number : Nat) :
    after.node number = before.node number := by
  rw [Network.node, same.nodes, Network.node]

theorem levels (same : before.SameWiring after) : after.levels = before.levels := by
  rw [Network.levels, same.nodes, Network.levels]

theorem sameShape (same : before.SameWiring after) : before.SameShape after where
  levels := same.levels
  inputs number := by rw [same.node]
  observers number := by rw [same.node]
  handles := same.handles
  listeners := same.listeners
  held := same.held

theorem sceneThrough (same : before.SameWiring after) (levels : Nat) :
    after.sceneThrough levels = before.sceneThrough levels := by
  induction levels with
  | zero => rfl
  | succ levels induction =>
      funext number
      simp only [Network.sceneThrough, same.node, induction]

theorem scene (same : before.SameWiring after) : after.scene = before.scene := by
  funext number
  rw [Network.scene, same.levels, same.sceneThrough, Network.scene]

theorem lives (same : before.SameWiring after) : after.lives = before.lives :=
  same.sameShape.lives

theorem liveObservers (same : before.SameWiring after) :
    after.liveObservers = before.liveObservers :=
  same.sameShape.liveObservers

theorem responses (same : before.SameWiring after) : after.responses = before.responses := by
  funext number sender batch
  simp only [Network.responses, same.node, same.scene]

end SameWiring

/-! ## Sending -/

theorem hearOne_of_not_isEmpty {batch : Batch} (notEmpty : batch.isEmpty = false)
    (listener sender : Nat) (attention : Attention) (network : Network) :
    ∃ store sight, hearOne listener sender attention network batch =
      { network with
        store := store
        heard := network.heard ++ [⟨listener, sender, batch, sight⟩] } := by
  rw [hearOne, notEmpty]
  by_cases looks : attention = .looks
  · rw [if_pos looks]
    exact ⟨_, _, rfl⟩
  · rw [if_neg looks]
    exact ⟨_, _, rfl⟩

theorem sameWiring_hearOne (listener sender : Nat) (attention : Attention) (network : Network)
    (batch : Batch) : network.SameWiring (hearOne listener sender attention network batch) := by
  cases notEmpty : batch.isEmpty with
  | true =>
      rw [hearOne, notEmpty]
      exact .refl network
  | false =>
      rcases hearOne_of_not_isEmpty notEmpty listener sender attention network with
        ⟨store, sight, heard⟩
      rw [heard]
      exact ⟨rfl, rfl, rfl, rfl⟩

theorem sameWiring_hear (network : Network) (listener sender : Nat) (batch : Batch) :
    network.SameWiring (network.hear listener sender batch) := by
  unfold hear
  split
  · exact .foldl (sameWiring_hearOne _ _ _) _ network
  · exact .refl network

theorem sameWiring_tell {sends : Network → Nat → Batch → Network}
    (same : ∀ (network : Network) (sender : Nat) (batch : Batch),
      network.SameWiring (sends network sender batch))
    (sender : Nat) (batch : Batch) (network : Network) (observer : Observer) :
    network.SameWiring (tell sends sender batch network observer) := by
  cases observer with
  | index number => exact .foldl (fun network response => same network number response) _ network
  | listener number => exact sameWiring_hear network number sender batch

theorem sameWiring_sendThrough (levels : Nat) (network : Network) (sender : Nat) (batch : Batch) :
    network.SameWiring (sendThrough levels network sender batch) := by
  induction levels generalizing network sender batch with
  | zero =>
      rw [sendThrough, ite_self]
      exact .refl network
  | succ levels induction =>
      rw [sendThrough]
      split
      · exact .refl network
      · exact .foldl (sameWiring_tell induction sender batch) _ network

theorem sameWiring_report (network : Network) (misuses : List Misuse) :
    network.SameWiring (network.report misuses) := ⟨rfl, rfl, rfl, rfl⟩

theorem sameWiring_read {α : Type} (network : Network) (reading : Reads α) :
    network.SameWiring (network.read reading).2 := ⟨rfl, rfl, rfl, rfl⟩

theorem sameWiring_send (network : Network) (sender : Nat) (batch : Batch) :
    network.SameWiring (network.send sender batch) :=
  sameWiring_sendThrough network.levels network sender batch

end LayeredScene.Network
