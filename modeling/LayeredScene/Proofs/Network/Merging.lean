import LayeredScene.Proofs.Network.FilterStack
import LayeredScene.Proofs.Scene.Merging

/-! # Following a merging index

Whoever listens to an index that merges indices of stored prims can follow the types of its prims
while prims are added to these and removed from them, as long as the root is not removed. Removing
the root from one of them takes all prims away from the listener, and what the others have does not
come back.
-/

namespace LayeredScene

def SceneCall.removed : SceneCall → List Path
  | .add _ => []
  | .remove paths => paths

namespace Network

variable {network before after : Network} {rank : Nat → Nat} {number listener sender : Nat}
variable {inputs : List Nat} {batch : Batch}

/-- Following what a listener heard in between from an index leads from the types that the index
showed to those that it shows. -/
def Follows (before after : Network) (listener number : Nat) : Prop :=
  ∃ emitted, after.heardFrom listener number = before.heardFrom listener number ++ emitted ∧
    (before.types number).replayAll emitted = after.types number

theorem Follows.refl (network : Network) (listener number : Nat) :
    network.Follows network listener number :=
  ⟨[], (List.append_nil _).symm, rfl⟩

theorem Follows.trans {last : Network} (first : before.Follows after listener number)
    (second : after.Follows last listener number) : before.Follows last listener number := by
  rcases first with ⟨earlier, heardEarlier, followed⟩
  rcases second with ⟨later, heardLater, followedLater⟩
  refine ⟨earlier ++ later, ?_, ?_⟩
  · rw [heardLater, heardEarlier, List.append_assoc]
  · rw [TypeMap.replayAll_append, followed, followedLater]

/-! ## What a merging index sends -/

theorem Layered.sentThrough_of_standing (layered : network.Layered rank)
    (bottom : ∀ input ∈ (network.node number).index.inputs,
      (network.node input).index.inputs = [])
    (stands : (network.node sender).index.inputs ≠ []) (elsewhere : sender ≠ number) (levels : Nat)
    (batch : Batch) : network.sentThrough number levels sender batch = [] := by
  refine sentThrough_of_quiet
    (fun sender => (network.node sender).index.inputs ≠ [] ∧ sender ≠ number)
    (fun _ => And.right) ?_ ⟨stands, elsewhere⟩ levels batch
  intro sender other standing observes
  have input := layered.input_of_liveObserver observes
  refine ⟨List.ne_nil_of_mem input, ?_⟩
  intro same
  subst same
  exact standing.1 (bottom sender input)

/-- A listener listens to an index that merges and observes indices of stored prims, in a network
without cycles. -/
structure Merged (network : Network) (listener number : Nat) (inputs : List Nat) : Prop where
  layered : ∃ rank, network.Layered rank
  index : (network.node number).index = .merging inputs
  observes : ∀ input ∈ inputs, .index number ∈ network.liveObservers input
  stores : ∀ input ∈ inputs, ∃ history, network.Stores input (.afterEdits history)
  listens : .listener listener ∈ network.liveObservers number

namespace Merged

theorem of_sameShape (merged : before.Merged listener number inputs)
    (same : before.SameShape after)
    (index : (after.node number).index = (before.node number).index)
    (stores : ∀ input ∈ inputs, ∃ history, after.Stores input (.afterEdits history)) :
    after.Merged listener number inputs where
  layered := merged.layered.imp fun _ layered => layered.of_sameShape same
  index := index.trans merged.index
  observes input member := by
    rw [same.liveObservers]
    exact merged.observes input member
  stores := stores
  listens := by
    rw [same.liveObservers]
    exact merged.listens

theorem inside (merged : network.Merged listener number inputs) : number < network.levels :=
  inside_of_merging merged.index

theorem ne_of_stores (merged : network.Merged listener number inputs) {table : PrimTable}
    (stores : network.Stores sender table) : sender ≠ number :=
  stores.ne_of_merging merged.index

theorem ne_number (merged : network.Merged listener number inputs) (member : sender ∈ inputs) :
    sender ≠ number := by
  rcases merged.stores sender member with ⟨history, stores⟩
  exact merged.ne_of_stores stores

theorem stores_other (merged : before.Merged listener number inputs) {table : PrimTable}
    (restocked : before.Restocked after sender table) {input : Nat} (isInput : input ∈ inputs)
    (different : input ≠ sender) :
    ∃ history, before.Stores input (.afterEdits history) ∧
      after.Stores input (.afterEdits history) := by
  rcases merged.stores input isInput with ⟨history, stores⟩
  refine ⟨history, stores, Nat.lt_of_lt_of_eq stores.inside restocked.shape.levels.symm, ?_⟩
  rw [restocked.kept input different]
  exact stores.index

theorem restocked (merged : before.Merged listener number inputs) (member : sender ∈ inputs)
    {table : PrimTable} (restocked : before.Restocked after sender table)
    (edited : ∃ history, table = .afterEdits history) : after.Merged listener number inputs := by
  apply merged.of_sameShape restocked.shape
  · rw [restocked.kept number (merged.ne_number member).symm]
  · intro input isInput
    by_cases isSender : input = sender
    · rcases edited with ⟨history, rfl⟩
      exact ⟨history, isSender ▸ restocked.stores⟩
    · exact (merged.stores_other restocked isInput isSender).imp fun _ both => both.2

theorem scene (merged : network.Merged listener number inputs) :
    network.scene number = .merge (inputs.map network.scene) := by
  rcases merged.layered with ⟨rank, layered⟩
  exact layered.scene_merging merged.inside merged.index

theorem types (merged : network.Merged listener number inputs) :
    network.types number = (Scene.merge (inputs.map network.scene)).types := by
  rw [Network.types, merged.scene]

theorem sent (merged : network.Merged listener number inputs) (member : sender ∈ inputs)
    (noRename : batch.isRename = false) :
    network.sent number sender batch =
      (Scene.mergedResponse (inputs.map network.scene)
        ((inputs.filter (· ≠ sender)).map network.scene) batch).filter (!·.isEmpty) := by
  rcases merged.layered with ⟨rank, layered⟩
  have responds : network.responses number sender batch =
      Scene.mergedResponse (inputs.map network.scene)
        ((inputs.filter (· ≠ sender)).map network.scene) batch := by
    rw [responses, merged.index]
    simp only [batch.withoutRenames_of_not_isRename _ noRename, List.flatMap_singleton]
  have bottom : ∀ input ∈ (network.node number).index.inputs,
      (network.node input).index.inputs = [] := by
    intro input isInput
    rw [merged.index] at isInput
    rcases merged.stores input isInput with ⟨history, stores⟩
    rw [stores.index]
    rfl
  -- there is a level for the input and another one for what merges it
  have bounded := layered.rank_lt number merged.inside
  have lower := layered.rank_liveObserver (merged.observes sender member)
  obtain ⟨levels, enough⟩ : ∃ levels, network.levels = levels + 2 :=
    ⟨network.levels - 2, by omega⟩
  cases isEmpty : batch.isEmpty with
  | true =>
      rw [Scene.mergedResponse_of_isEmpty _ _ isEmpty, Network.sent, enough, sentThrough,
        if_pos isEmpty]
  | false =>
      rw [Network.sent, enough, layered.sentThrough_of_below (merged.observes sender member) isEmpty,
        responds]
      intro other observes beside response
      exact layered.sentThrough_of_standing bottom
        (List.ne_nil_of_mem (layered.input_of_liveObserver observes)) beside _ response

theorem follows_send (merged : before.Merged listener number inputs) (member : sender ∈ inputs)
    {table : PrimTable} (restocked : before.Restocked after sender table)
    (edited : ∃ history, table = .afterEdits history) (noRename : batch.isRename = false)
    (followed : (Scene.merge (inputs.map before.scene)).types.replayAll
      (Scene.mergedResponse (inputs.map after.scene)
        ((inputs.filter (· ≠ sender)).map after.scene) batch) =
      (Scene.merge (inputs.map after.scene)).types) :
    before.Follows (after.send sender batch) listener number := by
  have changed := merged.restocked member restocked edited
  have said := changed.sent member noRename
  have stillNoRename : ∀ response ∈ after.sent number sender batch, response.isRename = false := by
    intro response isSaid
    rw [said] at isSaid
    exact Scene.isRename_mergedResponse _ _ noRename response (List.mem_filter.mp isSaid).1
  rcases changed.layered with ⟨rank, layered⟩
  refine ⟨after.sent number sender batch, ?_, ?_⟩
  · have heard := layered.heardFrom_sendThrough changed.listens stillNoRename (.refl after)
    rw [← heardFrom_of_unheard restocked.unheard]
    exact heard
  · have unchanged : (after.send sender batch).types number = after.types number := by
      rw [Network.types, (sameWiring_send after sender batch).scene, Network.types]
    rw [unchanged, changed.types, merged.types, said,
      TypeMap.replayAll_filter_not_isEmpty, followed]

theorem follows_addPrims (merged : network.Merged listener number inputs) (member : sender ∈ inputs)
    (entries : PrimEntries) :
    network.Follows (network.addPrims sender entries) listener number := by
  rcases merged.stores sender member with ⟨history, stores⟩
  rcases stores.addPrims entries with ⟨after, sends, restocked⟩
  have tree := PrimTable.isTree_afterEdits history
  rw [sends]
  refine merged.follows_send member restocked ⟨history ++ (SceneCall.add entries).edits, ?_⟩ rfl
    (Scene.replay_mergedResponse_added ?_)
  · rw [PrimTable.insertAll_eq, PrimTable.afterEdits, PrimTable.afterEdits, List.foldl_append]
  · intro path elsewhere input isInput
    by_cases isSender : input = sender
    · have notStored : ∀ entry ∈ entries, path ≠ entry.1 := fun entry isEntry =>
        elsewhere _ (List.mem_map_of_mem isEntry)
      rw [isSender, stores.scene, restocked.stores.scene]
      exact congrArg Prim.type (tree.prim_insertAll notStored).symm
    · rcases merged.stores_other restocked isInput isSender with ⟨_, stores, stillStores⟩
      rw [stores.scene, stillStores.scene]

theorem follows_removePrims (merged : network.Merged listener number inputs)
    (member : sender ∈ inputs) {paths : List Path} (notRoot : .root ∉ paths) :
    network.Follows (network.removePrims sender paths) listener number := by
  rcases merged.stores sender member with ⟨history, stores⟩
  rcases stores.removePrims paths with ⟨after, sends, restocked⟩
  have gone := (PrimTable.isTree_afterEdits history).prim_removeAll notRoot
  have loses : Scene.Loses network.scene after.scene inputs sender
      ((PrimTable.afterEdits history).removeAll paths).2 := by
    refine ⟨gone.1, ?_, ?_, ?_⟩
    · intro path
      rw [stores.scene, restocked.stores.scene]
      exact (congrArg Prim.type (gone.2 path)).trans (apply_ite Prim.type _ _ _)
    · intro input isInput isOther
      rcases merged.stores_other restocked isInput isOther with ⟨_, stores, stillStores⟩
      rw [stores.scene, stillStores.scene]
    · intro input isInput isOther
      rcases merged.stores_other restocked isInput isOther with ⟨others, _, stillStores⟩
      exact ⟨_, PrimTable.isTree_afterEdits others, stillStores.scene⟩
  rw [sends]
  refine merged.follows_send member restocked ⟨history ++ (SceneCall.remove paths).edits, ?_⟩ rfl
    loses.replay_mergedResponse
  rw [PrimTable.removeAll_eq, PrimTable.afterEdits, PrimTable.afterEdits, List.foldl_append]

theorem called_of_stores (merged : network.Merged listener number inputs)
    {history : List PrimTable.Edit} (stores : network.Stores sender (.afterEdits history))
    (call : SceneCall) : (network.called sender call).Merged listener number inputs := by
  have called := stores.sameShape_called call
  apply merged.of_sameShape called.1
  · rw [called.2 number (merged.ne_of_stores stores).symm]
  · intro input isInput
    by_cases isSender : input = sender
    · refine ⟨history ++ call.edits, ?_⟩
      rw [isSender, PrimTable.afterEdits, List.foldl_append]
      exact stores.called call
    · rcases merged.stores input isInput with ⟨others, otherStores⟩
      exact ⟨others, stores.called_other otherStores isSender call⟩

theorem called (merged : network.Merged listener number inputs) (member : sender ∈ inputs)
    (call : SceneCall) : (network.called sender call).Merged listener number inputs := by
  rcases merged.stores sender member with ⟨history, stores⟩
  exact merged.called_of_stores stores call

end Merged

def afterAllCalls (network : Network) (calls : List (Nat × SceneCall)) : Network :=
  calls.foldl (fun network call => network.called call.1 call.2) network

theorem Merged.afterAllCalls (merged : network.Merged listener number inputs)
    {calls : List (Nat × SceneCall)} (onInputs : ∀ call ∈ calls, call.1 ∈ inputs) :
    (network.afterAllCalls calls).Merged listener number inputs := by
  induction calls generalizing network with
  | nil => exact merged
  | cons call calls induction =>
      have parts := List.forall_mem_cons.mp onInputs
      exact induction (merged.called parts.1 call.2) parts.2

/-- Whoever listens to a merging index can follow it through any calls on the indices below it that
do not remove the root: following what was heard leads to the types that the merged prims have,
after these calls as after any first few of them. -/
theorem Merged.follows_afterAllCalls (merged : network.Merged listener number inputs)
    {calls : List (Nat × SceneCall)} (onInputs : ∀ call ∈ calls, call.1 ∈ inputs)
    (belowRoot : ∀ call ∈ calls, .root ∉ call.2.removed) :
    network.Follows (network.afterAllCalls calls) listener number := by
  induction calls generalizing network with
  | nil => exact .refl network listener number
  | cons call calls induction =>
      have member := onInputs call List.mem_cons_self
      have first : network.Follows (network.called call.1 call.2) listener number := by
        have notRoot := belowRoot call List.mem_cons_self
        rcases call with ⟨sender, entries | paths⟩
        · exact merged.follows_addPrims member entries
        · exact merged.follows_removePrims member notRoot
      have rest := induction (merged.called member call.2)
        (fun other isLater => onInputs other (List.mem_cons_of_mem _ isLater))
        (fun other isLater => belowRoot other (List.mem_cons_of_mem _ isLater))
      exact first.trans rest

def mergedPair : Network :=
  let network := empty.addRetained.2.addRetained.2
  let network := (network.addMerging [0, 1]).2
  (network.addListener .plain).2.observe 2 (.listener 0)

theorem layered_mergedPair : mergedPair.Layered id := by
  apply Layered.observe (.addListener _ .plain) (by decide)
  · intro index isIndex
    cases isIndex
  · exact Layered.empty.addRetained.addRetained.addMerging (by decide)

theorem merged_mergedPair : mergedPair.Merged 0 2 [0, 1] where
  layered := ⟨id, layered_mergedPair⟩
  index := rfl
  observes := by decide
  stores input member := by
    rcases List.mem_cons.mp member with rfl | member
    · exact ⟨[], by decide, rfl⟩
    · rw [List.mem_singleton.mp member]
      exact ⟨[], by decide, rfl⟩
  listens := by decide

def pairFilling : List (Nat × SceneCall) :=
  [(0, .add [(.absolute ["a"] none, ⟨"Xform", none⟩)]),
    (1, .add [(.absolute ["a"] none, ⟨"Scope", none⟩), (.absolute ["b"] none, ⟨"Mesh", none⟩)])]

theorem Merged.follows_afterAllCalls_mergedPair :
    mergedPair.Follows
      (mergedPair.afterAllCalls (pairFilling ++ [(0, .remove [.absolute ["a"] none])])) 0 2 := by
  apply merged_mergedPair.follows_afterAllCalls
  · decide
  · decide

/-- When the root is removed from the first index, the prims of the second one are still there, but
the listener is told of no prims any more. -/
theorem not_follows_removal_of_root :
    let filled := mergedPair.afterAllCalls pairFilling
    let emptied := filled.called 0 (.remove [.root])
    emptied.heardFrom 0 2 = filled.heardFrom 0 2 ++ [.removed [.root]] ∧
      emptied.types 2 (.absolute ["b"] none) = "Mesh" ∧ ¬filled.Follows emptied 0 2 := by
  intro filled emptied
  have heard : emptied.heardFrom 0 2 = filled.heardFrom 0 2 ++ [.removed [.root]] := by
    decide +kernel
  have shown : emptied.types 2 (.absolute ["b"] none) = "Mesh" := by decide +kernel
  refine ⟨heard, shown, ?_⟩
  rintro ⟨emitted, alsoHeard, followed⟩
  rw [heard] at alsoHeard
  rw [← List.append_cancel_left alsoHeard] at followed
  have forgotten : (filled.types 2).replayAll [.removed [.root]] (.absolute ["b"] none) = "" := rfl
  rw [followed, shown] at forgotten
  contradiction

end Network

end LayeredScene
