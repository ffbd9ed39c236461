import LayeredScene.Proofs.Network.ObserverCalls
import LayeredScene.Proofs.Network.Sent

/-! # Delivery to observers

A batch that an index sends goes to those on its list who are still there. Observers come, go and
end in any order, and those who have ended stay listed until the list is next changed. Whoever is
there and was added last is told, once, and in the order in which they were added.
-/

namespace LayeredScene.Network

open ObserverCall (last? addedAt)

variable {network before after : Network} {number : Nat} {calls : List (ObserverCall Observer)}

/-! ## Runs -/

/-- The networks that come about from one in which an index has no observers yet, with the calls to
the list of that index. Meanwhile anything can happen that leaves the list alone and brings nobody
back who was added and has ended. -/
inductive ObserverRun (number : Nat) : Network → List (ObserverCall Observer) → Prop
  | start {network : Network} (inside : number < network.levels)
      (unobserved : (network.node number).observers = .none) : ObserverRun number network []
  | add {network : Network} {calls : List (ObserverCall Observer)}
      (run : ObserverRun number network calls) (observer : Observer) :
      ObserverRun number (network.observe number observer) (calls ++ [.add observer])
  | remove {network : Network} {calls : List (ObserverCall Observer)}
      (run : ObserverRun number network calls) (observer : Observer) :
      ObserverRun number (network.unobserve number observer) (calls ++ [.remove observer])
  | meanwhile {before after : Network} {calls : List (ObserverCall Observer)}
      (run : ObserverRun number before calls) (inside : number < after.levels)
      (observers : (after.node number).observers = (before.node number).observers)
      (gone : ∀ observer, .add observer ∈ calls → after.lives observer = true →
        before.lives observer = true) :
      ObserverRun number after calls

theorem lives_observe (inside : number < network.levels) (observer : Observer) :
    (network.observe number observer).lives = network.lives :=
  lives_of_inputs (levels_changeNode _ _ _)
    (fun other => congrArg Index.inputs (index_observe inside observer other)) rfl rfl rfl

theorem lives_unobserve (inside : number < network.levels) (observer : Observer) :
    (network.unobserve number observer).lives = network.lives :=
  lives_of_inputs (levels_changeNode _ _ _)
    (fun other => congrArg Index.inputs (index_unobserve inside observer other)) rfl rfl rfl

theorem lives_of_handles {index : Nat} (live : before.lives (.index index) = true)
    (nodes : after.nodes = before.nodes) (handles : before.handles ⊆ after.handles)
    (held : after.held = before.held) : after.lives (.index index) = true := by
  apply lives_of_subset _ _ handles held live
  · exact (congrArg Array.size nodes).ge
  · intro other
    rw [node, node, nodes]
    exact List.Subset.refl _

theorem lives_of_letGo {index : Nat} {observer : Observer}
    (live : (network.letGo index).lives observer = true) : network.lives observer = true := by
  cases observer with
  | listener other => exact live
  | index other => exact lives_of_handles live rfl List.erase_subset rfl

theorem lives_of_dropListener {listener : Nat} {observer : Observer}
    (live : (network.dropListener listener).lives observer = true) :
    network.lives observer = true := by
  cases observer with
  | index other => exact lives_of_handles live rfl (List.Subset.refl _) rfl
  | listener other =>
      rw [lives, dropListener, Array.getElem?_modify] at live
      rw [lives]
      split at live
      · cases found : network.listeners[other]? <;> simp [found] at live
      · exact live

namespace ObserverRun

theorem inside (run : ObserverRun number network calls) : number < network.levels := by
  induction run with
  | start inside => exact inside
  | add run observer induction => exact induction.trans_eq (levels_changeNode _ _ _).symm
  | remove run observer induction => exact induction.trans_eq (levels_changeNode _ _ _).symm
  | meanwhile run inside => exact inside

theorem follows (run : ObserverRun number network calls) :
    (network.node number).observers.Follows network.lives calls := by
  induction run with
  | start inside unobserved =>
      rw [unobserved]
      exact .none _
  | add run observer induction =>
      rw [observers_observe run.inside, if_pos rfl, lives_observe run.inside]
      exact induction.add observer
  | remove run observer induction =>
      rw [observers_unobserve run.inside, if_pos rfl, lives_unobserve run.inside]
      exact induction.remove observer
  | meanwhile run inside observers gone induction =>
      rw [observers]
      exact induction.fade gone

theorem dropListener (run : ObserverRun number network calls) (listener : Nat) :
    ObserverRun number (network.dropListener listener) calls :=
  run.meanwhile run.inside rfl fun _ _ => lives_of_dropListener

theorem letGo (run : ObserverRun number network calls) (index : Nat) :
    ObserverRun number (network.letGo index) calls :=
  run.meanwhile run.inside rfl fun _ _ => lives_of_letGo

theorem of_sameShape (run : ObserverRun number before calls) (same : before.SameShape after) :
    ObserverRun number after calls := by
  refine run.meanwhile (run.inside.trans_eq same.levels.symm) (same.observers number) ?_
  intro observer _ live
  rw [← same.lives]
  exact live

end ObserverRun

/-! ## Delivery -/

/-- Batches that an index sends go to some observers, to one after the other and to each once. What
is heard from the index is what they hear, in that order. Empty batches go to nobody. -/
structure DeliversTo (network : Network) (number : Nat) (reached : List Observer) : Prop where
  nobody : ∀ batch, batch.isEmpty = true → network.send number batch = network
  inTurn : ∀ batch, batch.isEmpty = false → network.send number batch =
    reached.foldl (tell (sendThrough (network.levels - 1)) number batch) network
  heard : ∀ rank, network.Layered rank → ∀ batch, batch.isEmpty = false →
    (network.send number batch).heardAt number =
      network.heardAt number ++ reached.flatMap (network.hearing number batch)

theorem deliversTo_liveObservers (inside : number < network.levels) :
    network.DeliversTo number (network.liveObservers number) := by
  rcases exists_levels inside with ⟨levels, enough⟩
  constructor
  · intro batch isEmpty
    rw [Network.send, enough, sendThrough, if_pos isEmpty]
  · intro batch notEmpty
    rw [Network.send, enough, sendThrough, notEmpty, if_neg Bool.false_ne_true,
      Nat.add_sub_cancel]
  · intro rank layered batch notEmpty
    rw [Network.send, enough]
    exact layered.heardAt_sendThrough_self notEmpty (.refl network) levels

/-- At every point of a run, nobody is on the list twice. A batch that is not empty reaches those
who live and were added last, each once, in the order of the calls that first added them since they
were last taken off; and they are as many as the list counts. -/
theorem ObserverRun.delivers_once_in_order (run : ObserverRun number network calls) :
    (network.node number).observers.registered.Nodup ∧
      ∃ reached : List Observer, reached.Nodup ∧
        (∀ observer, observer ∈ reached ↔
          network.lives observer = true ∧ last? observer calls = some (.add observer)) ∧
        (reached.Pairwise fun earlier later => addedAt earlier calls < addedAt later calls) ∧
        (network.node number).observers.count network.lives = reached.length ∧
        network.DeliversTo number reached := by
  have follows := run.follows
  exact ⟨follows.once, network.liveObservers number, follows.once.filter _, follows.mem_live_iff,
    follows.inOrder, rfl, deliversTo_liveObservers run.inside⟩

def withThreeListeners : Network :=
  (((empty.addRetained.2.addListener .plain).2.addListener .plain).2.addListener .plain).2

def comeAndGone : Network :=
  ((((((withThreeListeners.observe 0 (.listener 0)).observe 0 (.listener 1)).observe 0
    (.listener 2)).unobserve 0 (.listener 0)).observe 0 (.listener 1)).dropListener 2).observe 0
      (.listener 0)

theorem observerRun_comeAndGone : ObserverRun 0 comeAndGone
    [.add (.listener 0), .add (.listener 1), .add (.listener 2), .remove (.listener 0),
      .add (.listener 1), .add (.listener 0)] :=
  have started : ObserverRun 0 withThreeListeners [] := .start (by decide) rfl
  ((((((started.add _).add _).add _).remove _).add _).dropListener 2).add _

theorem ObserverRun.delivers_once_in_order_comeAndGone :
    ∃ reached : List Observer, .listener 0 ∈ reached ∧ .listener 1 ∈ reached ∧
      .listener 2 ∉ reached ∧ comeAndGone.DeliversTo 0 reached := by
  rcases observerRun_comeAndGone.delivers_once_in_order with
    ⟨_, reached, _, members, _, _, delivers⟩
  exact ⟨reached, (members _).mpr (by decide), (members _).mpr (by decide),
    mt (members _).mp (by decide), delivers⟩

/-- The one who came back hears of a removal last. -/
example : (comeAndGone.send 0 (.removed [.root])).heardAt 0 =
    [(1, .removed [.root]), (0, .removed [.root])] := by decide +kernel

end LayeredScene.Network
