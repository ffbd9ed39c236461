import LayeredScene.Proofs.Network.Merging
import LayeredScene.Proofs.Network.Rewiring
import LayeredScene.Proofs.Scene.MergeInputs

/-! # Inputs that join a merging index or leave it

Whoever listens to an index that merges indices of stored prims can follow the types of its prims
when one more index joins those that it merges. When one leaves them, the listener is told what none
of the others has, and can follow just if what the others have keeps its type: a prim that had its
type from the one that leaves gets another one, of which nobody is told.
-/

namespace LayeredScene.Network

variable {network before after : Network} {number listener input : Nat}
variable {inputs former current : List Nat}

namespace Rewired

theorem merged (rewired : before.Rewired after number input former current)
    (merged : before.Merged listener number former) (layered : ∃ rank, after.Layered rank)
    (joined : input ∈ current → .index number ∈ after.liveObservers input ∧
      ∃ history, before.Stores input (.afterEdits history)) :
    after.Merged listener number current where
  layered := layered
  index := rewired.index
  observes other member := by
    by_cases isInput : other = input
    · subst isInput
      exact (joined member).1
    · apply rewired.liveObservers isInput
      · intro same
        exact rewired.apart (Observer.index.inj same).symm
      · exact merged.observes other ((rewired.others other isInput).mp member)
  stores other member := by
    by_cases isInput : other = input
    · subst isInput
      exact (joined member).2.imp fun _ stores => rewired.stores stores
    · have isFormer := (rewired.others other isInput).mp member
      exact (merged.stores other isFormer).imp fun _ stores => rewired.stores stores
  listens := by
    apply rewired.liveObservers rewired.apart.symm
    · simp
    · exact merged.listens

theorem scene_of_mem (rewired : before.Rewired after number input former current)
    (merged : before.Merged listener number former) {other : Nat} (member : other ∈ former) :
    after.scene other = before.scene other := by
  rcases merged.stores other member with ⟨history, stores⟩
  rw [stores.scene, (rewired.stores stores).scene]

theorem follows_send_iff (rewired : before.Rewired after number input former current)
    (merged : after.Merged listener number current) {batch : Batch}
    (noRename : batch.isRename = false) :
    before.Follows (after.send number batch) listener number ↔
      (before.types number).replay batch = after.types number := by
  rcases merged.layered with ⟨rank, layered⟩
  have heard : (after.send number batch).heardFrom listener number =
      before.heardFrom listener number ++ [batch].filter (!·.isEmpty) := by
    rw [layered.heardFrom_send_self merged.inside merged.listens noRename,
      heardFrom_of_unheard rewired.unheard, List.filter_singleton]
    cases batch.isEmpty <;> rfl
  have followed : (before.types number).replayAll ([batch].filter (!·.isEmpty)) =
      (before.types number).replay batch := TypeMap.replayAll_filter_not_isEmpty _ [batch]
  have shown : (after.send number batch).types number = after.types number := by
    rw [Network.types, (sameWiring_send after number batch).scene, Network.types]
  constructor
  · intro follows
    rcases follows with ⟨emitted, alsoHeard, leads⟩
    rw [heard] at alsoHeard
    rw [← List.append_cancel_left alsoHeard, followed, shown] at leads
    exact leads
  · intro leads
    exact ⟨_, heard, by rw [followed, leads, shown]⟩

end Rewired

namespace Merged

theorem send (merged : network.Merged listener number inputs) (batch : Batch) :
    (network.send number batch).Merged listener number inputs := by
  have same := sameWiring_send network number batch
  apply merged.of_sameShape same.sameShape
  · rw [same.node]
  · intro other member
    exact (merged.stores other member).imp fun _ stores => stores.of_sameWiring same

theorem areTrees (merged : network.Merged listener number inputs) :
    Scene.AreTrees (inputs.map network.scene) := by
  intro scene isInput
  rcases List.mem_map.mp isInput with ⟨other, member, rfl⟩
  rcases merged.stores other member with ⟨history, stores⟩
  exact ⟨_, PrimTable.isTree_afterEdits history, stores.scene⟩

theorem mergingAlso (merged : network.Merged listener number inputs)
    (present : network.lives (.index number) = true) {history : List PrimTable.Edit}
    (stores : network.Stores input (.afterEdits history)) :
    (mergingAlso number network input).Merged listener number (inputs ++ [input]) := by
  apply (stores.rewired_mergingAlso merged.index).merged merged
  · rcases merged.layered with ⟨rank, layered⟩
    exact layered.mergingAlso stores merged.index
  · intro _
    exact ⟨mem_liveObservers_mergingAlso stores merged.index present, history, stores⟩

theorem mergingWithout (merged : network.Merged listener number inputs) (distinct : inputs.Nodup)
    (member : input ∈ inputs) :
    (mergingWithout number network input).Merged listener number (inputs.erase input) := by
  rcases merged.stores input member with ⟨history, stores⟩
  apply (stores.rewired_mergingWithout merged.index).merged merged
  · exact merged.layered.imp fun _ layered => layered.mergingWithout merged.index stores.inside
  · intro still
    exact absurd still distinct.not_mem_erase

end Merged

/-! ## What is announced -/

theorem join_eq (index : (network.node number).index = .merging inputs)
    (observed : (mergingAlso number network input).isObserved number = true) :
    network.join number input = (mergingAlso number network input).send number
      (.added (Scene.announcedByJoining
        ((inputs ++ [input]).map (mergingAlso number network input).scene)
        ((mergingAlso number network input).scene input))) := by
  rw [mergingAlso_of_merging index] at observed ⊢
  simp only [join, index]
  exact if_pos observed

theorem leave_eq (index : (network.node number).index = .merging inputs) (member : input ∈ inputs)
    (observed : (mergingWithout number network input).isObserved number = true) :
    network.leave number input = (mergingWithout number network input).send number
      (.removed (Scene.lostByLeaving
        ((inputs.erase input).map (mergingWithout number network input).scene)
        (network.scene input))) := by
  rw [mergingWithout_of_merging index] at observed ⊢
  simp only [leave, index, List.contains_iff_mem.mpr member, if_true]
  exact if_pos observed

theorem leave_of_not_mem (index : (network.node number).index = .merging inputs)
    (notMember : input ∉ inputs) : network.leave number input = network := by
  have absent : inputs.contains input = false :=
    Bool.eq_false_iff.mpr fun found => notMember (List.contains_iff_mem.mp found)
  simp only [leave, index, absent]
  rfl

/-! ## Following -/

theorem eq_or_mem_map_erase {α β : Type} [DecidableEq α] {gives : α → β} {items : List α} (item : α)
    {given : β} (member : given ∈ items.map gives) :
    given = gives item ∨ given ∈ (items.erase item).map gives := by
  rcases List.mem_map.mp member with ⟨other, isItem, rfl⟩
  by_cases same : other = item
  · exact Or.inl (congrArg gives same)
  · exact Or.inr (List.mem_map_of_mem ((List.mem_erase_of_ne same).mpr isItem))

namespace Merged

theorem follows_join (merged : network.Merged listener number inputs)
    (present : network.lives (.index number) = true) {history : List PrimTable.Edit}
    (stores : network.Stores input (.afterEdits history)) :
    (network.join number input).Merged listener number (inputs ++ [input]) ∧
      network.Follows (network.join number input) listener number := by
  have rewired := stores.rewired_mergingAlso merged.index
  have joined := merged.mergingAlso present stores
  have kept : inputs.map (Network.mergingAlso number network input).scene =
      inputs.map network.scene := List.map_congr_left fun _ => rewired.scene_of_mem merged
  rw [join_eq merged.index (isObserved_of_mem_liveObservers joined.listens)]
  refine ⟨joined.send _, (rewired.follows_send_iff joined rfl).mpr ?_⟩
  rw [joined.types, merged.types, List.map_append, kept, List.map_singleton,
    (rewired.stores stores).scene]
  exact Scene.replay_announcedByJoining (PrimTable.isTree_afterEdits history) _

theorem follows_leave_of_mem (merged : network.Merged listener number inputs)
    (distinct : inputs.Nodup) (member : input ∈ inputs) :
    (network.leave number input).Merged listener number (inputs.erase input) ∧
      (network.Follows (network.leave number input) listener number ↔
        ∀ path, ((network.leave number input).scene number).lists path = true →
          network.types number path = (network.leave number input).types number path) := by
  rcases merged.stores input member with ⟨history, stores⟩
  have rewired := stores.rewired_mergingWithout merged.index
  have left := merged.mergingWithout distinct member
  have kept : (inputs.erase input).map (Network.mergingWithout number network input).scene =
      (inputs.erase input).map network.scene := List.map_congr_left fun other isRest =>
    rewired.scene_of_mem merged (List.mem_of_mem_erase isRest)
  have trees : Scene.AreTrees ((inputs.erase input).map network.scene) := by
    rw [← kept]
    exact left.areTrees
  rw [leave_eq merged.index member (isObserved_of_mem_liveObservers left.listens)]
  refine ⟨left.send _, ?_⟩
  rw [rewired.follows_send_iff left rfl, Network.types, Network.types, Network.types,
    (sameWiring_send _ _ _).scene, left.scene, merged.scene, kept]
  have others : ∀ scene ∈ inputs.map network.scene, scene = (PrimTable.afterEdits history).scene ∨
      scene ∈ (inputs.erase input).map network.scene := by
    intro scene isInput
    rw [← stores.scene]
    exact eq_or_mem_map_erase input isInput
  have replayed := Scene.replay_lostByLeaving trees (PrimTable.isTree_afterEdits history) others
  rw [← stores.scene] at replayed
  constructor
  · intro leads path listed
    have here := replayed path
    rw [leads, listed, if_pos rfl] at here
    exact here.symm
  · intro keptTypes
    funext path
    rw [replayed path]
    split
    · rename_i listed
      exact keptTypes path listed
    · rfl

/-- Whoever listens to a merging index can follow it when an index joins those that it merges. When
one leaves them, following leads to the types of the merged prims if and only if all prims that are
still there have the types that they had. -/
theorem follows_join_and_leave (merged : network.Merged listener number inputs)
    (distinct : inputs.Nodup) (present : network.lives (.index number) = true) :
    (∀ input history, network.Stores input (.afterEdits history) →
      (network.join number input).Merged listener number (inputs ++ [input]) ∧
        network.Follows (network.join number input) listener number) ∧
    ∀ input, (network.leave number input).Merged listener number (inputs.erase input) ∧
      (network.Follows (network.leave number input) listener number ↔
        ∀ path, ((network.leave number input).scene number).lists path = true →
          network.types number path = (network.leave number input).types number path) := by
  constructor
  · intro input history stores
    exact merged.follows_join present stores
  · intro input
    by_cases member : input ∈ inputs
    · exact merged.follows_leave_of_mem distinct member
    · rw [leave_of_not_mem merged.index member, List.erase_of_not_mem member]
      exact ⟨merged, iff_of_true (.refl network listener number) fun _ _ => rfl⟩

end Merged

def pairAndThird : Network :=
  (mergedPair.addRetained.2.called 3 (.add [(.absolute ["a"] none, ⟨"Camera", none⟩)])).afterAllCalls
    pairFilling

theorem merged_pairAndThird : pairAndThird.Merged 0 2 [0, 1] := by
  have beside : mergedPair.addRetained.2.Merged 0 2 [0, 1] := {
    layered := ⟨id, layered_mergedPair.addRetained⟩
    index := rfl
    observes := by decide
    stores := by
      intro input member
      rcases List.mem_cons.mp member with rfl | member
      · exact ⟨[], by decide, rfl⟩
      · rw [List.mem_singleton.mp member]
        exact ⟨[], by decide, rfl⟩
    listens := by decide }
  have third : mergedPair.addRetained.2.Stores 3 (.afterEdits []) := .addRetained mergedPair
  exact (beside.called_of_stores third _).afterAllCalls (by decide)

theorem stores_pairAndThird : pairAndThird.Stores 3
    (.afterEdits [.store (.absolute ["a"] none) ⟨"Camera", none⟩]) :=
  ⟨by decide +kernel, rfl⟩

theorem Merged.follows_join_and_leave_pairAndThird :
    pairAndThird.Merged 0 2 [0, 1] ∧ [0, 1].Nodup ∧ pairAndThird.lives (.index 2) = true ∧
      pairAndThird.Follows (pairAndThird.join 2 3) 0 2 ∧
      ¬pairAndThird.Follows (pairAndThird.leave 2 0) 0 2 := by
  have distinct : [0, 1].Nodup := by decide
  have present : pairAndThird.lives (.index 2) = true := by decide +kernel
  have both := merged_pairAndThird.follows_join_and_leave distinct present
  refine ⟨merged_pairAndThird, distinct, present, (both.1 3 _ stores_pairAndThird).2, ?_⟩
  intro follows
  have same := (both.2 0).2.mp follows (.absolute ["a"] none) (by decide +kernel)
  have was : pairAndThird.types 2 (.absolute ["a"] none) = "Xform" := by decide +kernel
  have isNow : (pairAndThird.leave 2 0).types 2 (.absolute ["a"] none) = "Scope" := by
    decide +kernel
  rw [was, isNow] at same
  contradiction

/-- When the stronger one of a pair leaves, a prim that both have gets its type from the other one,
and the listener hears nothing. -/
theorem not_follows_leave_of_stronger :
    let filled := mergedPair.afterAllCalls pairFilling
    let left := filled.leave 2 0
    left.heardFrom 0 2 = filled.heardFrom 0 2 ∧
      filled.types 2 (.absolute ["a"] none) = "Xform" ∧
      left.types 2 (.absolute ["a"] none) = "Scope" ∧ ¬filled.Follows left 0 2 := by
  intro filled left
  have heard : left.heardFrom 0 2 = filled.heardFrom 0 2 := by decide +kernel
  have was : filled.types 2 (.absolute ["a"] none) = "Xform" := by decide +kernel
  have isNow : left.types 2 (.absolute ["a"] none) = "Scope" := by decide +kernel
  refine ⟨heard, was, isNow, ?_⟩
  intro follows
  rcases follows with ⟨emitted, alsoHeard, followed⟩
  rw [heard, List.self_eq_append_right] at alsoHeard
  rw [alsoHeard] at followed
  have unchanged := congrFun followed (.absolute ["a"] none)
  rw [isNow] at unchanged
  exact absurd (was.symm.trans unchanged) (by decide)

end LayeredScene.Network
