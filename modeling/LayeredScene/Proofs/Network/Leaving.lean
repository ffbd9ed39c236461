import LayeredScene.Proofs.Network.MergeInputs
import LayeredScene.Proofs.Network.Views

/-! # What leaves with an input

An index that leaves those that a merging index merges takes with it what none of the others stores.
The listeners are told just that, subtree by subtree: of all that is lost below something that stays
only the top is announced, in the order in which the prims of the index are met.
-/

namespace LayeredScene.Network

variable {network before after : Network} {rank : Nat → Nat} {number input : Nat}
variable {inputs former current : List Nat}

theorem Rewired.isObserved (rewired : before.Rewired after number input former current)
    (layered : before.Layered rank) (observed : before.isObserved number = true) :
    after.isObserved number = true := by
  rcases List.any_eq_true.mp observed with ⟨observer, registered, live⟩
  have different : observer ≠ .index input := by
    rintro rfl
    have stands := layered.observes_input input number registered
    rw [rewired.bottom] at stands
    cases stands
  have observes : observer ∈ before.liveObservers number :=
    List.mem_filter.mpr ⟨registered, live⟩
  exact isObserved_of_mem_liveObservers
    (rewired.liveObservers rewired.apart.symm different observes)

/-- Some paths are announced as removed when an index leaves those that another one merges, of which
the rest stays. They are those which the index stores and the rest does not, at the root or below
what the rest stores, each once and in the order in which they are met in the index. What lies under
them is what is gone, and it lies under one of them only. -/
structure LosesByLeaving (network : Network) (number input : Nat) (rest : List Nat)
    (lost : List Path) : Prop where
  sends : network.leave number input =
    (mergingWithout number network input).send number (.removed lost)
  heard : ∀ listener, .listener listener ∈ network.liveObservers number →
    (network.leave number input).heardFrom listener number =
      network.heardFrom listener number ++ if lost.isEmpty then [] else [.removed lost]
  mem_iff : ∀ path, path ∈ lost ↔ path ≠ .root ∧ network.StoresAt input path ∧
    (∀ other ∈ rest, ¬network.StoresAt other path) ∧
    (path.parent = .root ∨ ∃ other ∈ rest, network.StoresAt other path.parent)
  nodup : lost.Nodup
  inOrder : ∃ met, Cursor.Yields (network.scene input) (fun _ => false) (.startingAt .root) met ∧
    lost.Sublist met
  apart : ∀ first ∈ lost, ∀ second ∈ lost, ∀ path : Path,
    path.liesUnder first = true → path.liesUnder second = true → first = second
  covers : ∀ path, (network.scene number).lists path = true →
    ((network.leave number input).scene number).lists path = false →
    ∃ top ∈ lost, path.liesUnder top = true
  spares : ∀ top ∈ lost, ∀ path, path.liesUnder top = true →
    ∀ other ∈ rest, ¬network.StoresAt other path

section Leaving

variable (index : (network.node number).index = .merging inputs)
variable (stores : ∀ other ∈ inputs, ∃ history, network.Stores other (.afterEdits history))

include index stores

theorem scenes_mergingWithout (member : input ∈ inputs) :
    (inputs.erase input).map (mergingWithout number network input).scene =
      (inputs.erase input).map network.scene := by
  rcases stores input member with ⟨_, leaving⟩
  apply List.map_congr_left
  intro other isRest
  rcases stores other (List.mem_of_mem_erase isRest) with ⟨_, stays⟩
  rw [((leaving.rewired_mergingWithout index).stores stays).scene, stays.scene]

theorem scene_mergingWithout (member : input ∈ inputs) :
    (mergingWithout number network input).scene number =
      .merge ((inputs.erase input).map network.scene) := by
  rcases stores input member with ⟨_, leaving⟩
  have rewired := leaving.rewired_mergingWithout index
  rw [← scenes_mergingWithout index stores member]
  apply scene_merging_stores rewired.index
  intro other isRest
  exact (stores other (List.mem_of_mem_erase isRest)).imp fun _ stays => rewired.stores stays

theorem leave_sends (layered : network.Layered rank) (member : input ∈ inputs)
    (observed : network.isObserved number = true) :
    network.leave number input = (mergingWithout number network input).send number
      (.removed (Scene.lostByLeaving ((inputs.erase input).map network.scene)
        (network.scene input))) := by
  rcases stores input member with ⟨_, leaving⟩
  have rewired := leaving.rewired_mergingWithout index
  rw [← scenes_mergingWithout index stores member]
  exact leave_eq index member (rewired.isObserved layered observed)

theorem lists_of_gone {path : Path} (listed : (network.scene number).lists path = true)
    (unlisted : (Scene.merge ((inputs.erase input).map network.scene)).lists path = false) :
    (network.scene input).lists path = true := by
  rw [scene_merging_stores index stores, Scene.lists_merge_iff] at listed
  rcases listed with isRoot | ⟨scene, isScene, listed⟩
  · exact absurd isRoot (Scene.ne_root_of_unlisted unlisted)
  · rcases eq_or_mem_map_erase input isScene with rfl | isRest
    · exact listed
    · rw [Scene.lists_merge_iff.mpr (.inr ⟨scene, isRest, listed⟩)] at unlisted
      cases unlisted

/-- When an index leaves those that an observed one merges, what none of the others has is
announced, top by top, and nothing else is. -/
theorem leave_announces_lost (layered : network.Layered rank) (member : input ∈ inputs)
    (observed : network.isObserved number = true) :
    network.LosesByLeaving number input (inputs.erase input)
      (Scene.lostByLeaving ((inputs.erase input).map network.scene) (network.scene input)) := by
  rcases stores input member with ⟨history, leaving⟩
  have stay : ∀ other ∈ inputs.erase input, ∃ history, network.Stores other (.afterEdits history) :=
    fun other isRest => stores other (List.mem_of_mem_erase isRest)
  have tree : (network.scene input).IsTree := by
    rw [leaving.scene]
    exact (PrimTable.isTree_afterEdits history).scene_isTree
  have others := isTree_merged stay
  have sends := leave_sends index stores layered member observed
  constructor
  case sends => exact sends
  case heard =>
    intro listener listens
    have rewired := leaving.rewired_mergingWithout index
    have stillListens := rewired.liveObservers rewired.apart.symm (by simp) listens
    rw [sends, (layered.mergingWithout index leaving.inside).heardFrom_send_self
      (inside_of_merging rewired.index) stillListens rfl, heardFrom_of_unheard rewired.unheard]
    rfl
  case mem_iff =>
    intro path
    rw [Scene.mem_lostByLeaving_iff tree others, ← leaving.storesAt_iff, ← Bool.not_eq_true,
      lists_merged_iff stay, lists_merged_iff stay]
    simp only [not_or, not_exists, not_and]
    tauto
  case nodup => exact Scene.nodup_lostByLeaving tree
  case inOrder => exact ⟨_, (tree.yields_iff _ _ _).mpr rfl, Scene.lostByLeaving_sublist _ _⟩
  case apart =>
    intro first firstLost second secondLost path
    exact Scene.eq_of_liesUnder_both tree others firstLost secondLost
  case covers =>
    intro path listed unlisted
    rw [sends, (sameWiring_send _ _ _).scene, scene_mergingWithout index stores member] at unlisted
    exact Scene.exists_mem_lostByLeaving tree others (lists_of_gone index stores listed unlisted)
      unlisted
  case spares =>
    intro top isLost path under other isRest storesAt
    have unlisted := Scene.not_lists_of_liesUnder_lost tree others isLost under
    rw [(lists_merged_iff stay).mpr (.inr ⟨other, isRest, storesAt⟩)] at unlisted
    cases unlisted

end Leaving

def deeperPair : Network :=
  mergedPair.afterAllCalls (pairFilling ++
    [(1, .add [(.absolute ["b", "inner"] none, ⟨"Mesh", none⟩),
      (.absolute ["a", "inner"] none, ⟨"Mesh", none⟩)])])

theorem leave_announces_lost_deeperPair :
    deeperPair.isObserved 2 = true ∧
      deeperPair.LosesByLeaving 2 1 [0] [.absolute ["a", "inner"] none, .absolute ["b"] none] := by
  have merged : deeperPair.Merged 0 2 [0, 1] := merged_mergedPair.afterAllCalls (by decide)
  have observed := isObserved_of_mem_liveObservers merged.listens
  have lost : Scene.lostByLeaving ([0].map deeperPair.scene) (deeperPair.scene 1) =
      [.absolute ["a", "inner"] none, .absolute ["b"] none] := by decide +kernel
  rcases merged.layered with ⟨rank, layered⟩
  refine ⟨observed, ?_⟩
  rw [← lost]
  exact leave_announces_lost merged.index merged.stores layered (by decide) observed

end LayeredScene.Network
