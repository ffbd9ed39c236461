import LayeredScene.Network.Edit
import LayeredScene.Proofs.Filter.Replay
import LayeredScene.Proofs.Scene.TableDescent
import LayeredScene.Search.FirstMention

/-! # Following merged scenes

What merged scenes send when one of them has changed leads from the types that they showed to those
that they show, if the change was to what lies under the removed paths, or at the added ones, and
nowhere else. After a removal this takes the children of the other scenes: what these have at a
removed path is found among the children of the path above it. Nothing is above the root, so what
the others have at the root does not come back.
-/

namespace LayeredScene

namespace Scene

variable {scenes : List Scene} {before after : Nat → Scene} {inputs : List Nat} {path : Path}

theorem types_merge (scenes : List Scene) (path : Path) :
    (merge scenes).types path =
      ((scenes.map (·.types path)).find? (!·.isEmpty)).getD "" := by
  simp [types, merge, mergedPrim, Function.comp_def]

theorem types_merge_congr
    (same : ∀ input ∈ inputs, (before input).types path = (after input).types path) :
    (merge (inputs.map before)).types path = (merge (inputs.map after)).types path := by
  rw [types_merge, types_merge, List.map_map, List.map_map]
  congr 2
  exact List.map_congr_left same

theorem types_merge_of_empty (empty : ∀ scene ∈ scenes, scene.types path = "") :
    (merge scenes).types path = "" := by
  rw [types_merge, List.find?_eq_none.mpr]
  · rfl
  · intro type member
    rcases List.mem_map.mp member with ⟨scene, isScene, rfl⟩
    rw [empty scene isScene]
    decide

theorem mem_onceEach {entries : List (Path × Token)} {entry : Path × Token} :
    entry ∈ onceEach [] entries ↔ entry ∈ entries := by
  have unites : Unites onceEach := ⟨fun _ => rfl, fun _ _ _ => rfl⟩
  rw [unites.eq_eraseDups, List.mem_eraseDups]

theorem mem_remaining {merged : Scene} {others : List Scene} {top : Path} {entry : Path × Token} :
    entry ∈ remaining merged others top ↔
      entry.2 = merged.types entry.1 ∧
        ∃ other ∈ others, other.hasChild top = true ∧ entry.1 ∈ other.under top := by
  simp only [remaining, List.mem_flatMap, List.mem_filter, List.mem_map]
  constructor
  · rintro ⟨other, ⟨isOther, has⟩, path, met, rfl⟩
    exact ⟨rfl, other, isOther, has, met⟩
  · rintro ⟨isType, other, isOther, has, met⟩
    exact ⟨other, ⟨isOther, has⟩, entry.1, met, Prod.ext rfl isType.symm⟩

theorem mergedResponse_of_isEmpty (scenes others : List Scene) {batch : Batch}
    (isEmpty : batch.isEmpty = true) :
    (mergedResponse scenes others batch).filter (!·.isEmpty) = [] := by
  cases batch with
  | added entries => simp [List.isEmpty_iff.mp isEmpty, mergedResponse, Batch.isEmpty]
  | removed paths => simp [List.isEmpty_iff.mp isEmpty, mergedResponse, Batch.isEmpty, onceEach]
  | dirtied entries => simp [List.isEmpty_iff.mp isEmpty, mergedResponse, Batch.isEmpty]
  | renamed entries => simp [List.isEmpty_iff.mp isEmpty, mergedResponse, Batch.isEmpty]

theorem isRename_mergedResponse (scenes others : List Scene) {batch : Batch}
    (noRename : batch.isRename = false) :
    ∀ said ∈ mergedResponse scenes others batch, said.isRename = false := by
  cases batch with
  | renamed entries => contradiction
  | _ => simp [mergedResponse, Batch.isRename]

theorem replay_mergedResponse_added {entries : List (Path × Token)} {others : List Scene}
    (same : ∀ path, (∀ entry ∈ entries, path ≠ entry.1) →
      ∀ input ∈ inputs, (before input).types path = (after input).types path) :
    (merge (inputs.map before)).types.replayAll
        (mergedResponse (inputs.map after) others (.added entries)) =
      (merge (inputs.map after)).types := by
  funext path
  have known : ∀ entry ∈ entries.map fun entry => (merge (inputs.map after)).typed entry.1,
      entry.2 = (merge (inputs.map after)).types entry.1 := by
    intro entry member
    rcases List.mem_map.mp member with ⟨told, _, rfl⟩
    rfl
  simp only [mergedResponse, TypeMap.replayAll, List.foldl_cons, List.foldl_nil, TypeMap.replay]
  rw [TypeMap.foldl_set _ _ known]
  split
  · rfl
  · rename_i notAdded
    apply types_merge_congr
    apply same
    intro entry member isPath
    exact notAdded ⟨_, List.mem_map_of_mem member, isPath⟩

theorem mem_remaining_of_tree {merged : Scene} {others : List Scene} {table : PrimTable}
    (tree : table.IsTree) (isOther : table.scene ∈ others) {top : Path} (notRoot : top ≠ .root)
    (stored : table.contains path = true) (under : path.liesUnder top = true) :
    (path, merged.types path) ∈ remaining merged others top := by
  have topStored := tree.contains_of_liesUnder stored under
  have has : table.scene.hasChild top = true :=
    List.contains_iff_mem.mpr (tree.mem_children_parent topStored notRoot)
  exact mem_remaining.mpr
    ⟨rfl, table.scene, isOther, has, (tree.mem_under_iff topStored).mpr ⟨stored, under⟩⟩

/-- What changes when one of some scenes loses what lies under some paths below the root, and the
others, which show trees, stay as they are. -/
structure Loses (before after : Nat → Scene) (inputs : List Nat) (sender : Nat) (gone : List Path) :
    Prop where
  tops : ∀ top ∈ gone, top ≠ .empty ∧ top ≠ .root
  lost : ∀ path, (after sender).types path =
    if ∃ top ∈ gone, path.liesUnder top = true then "" else (before sender).types path
  kept : ∀ input ∈ inputs, input ≠ sender → after input = before input
  trees : ∀ input ∈ inputs, input ≠ sender → ∃ table : PrimTable, table.IsTree ∧
    after input = table.scene

namespace Loses

variable {sender : Nat} {gone : List Path}

theorem types_of_not_gone (loses : Loses before after inputs sender gone)
    (notGone : ¬∃ top ∈ gone, path.liesUnder top = true) :
    (merge (inputs.map before)).types path = (merge (inputs.map after)).types path := by
  apply types_merge_congr
  intro input member
  by_cases isSender : input = sender
  · rw [isSender, loses.lost, if_neg notGone]
  · rw [loses.kept input member isSender]

theorem types_of_gone (loses : Loses before after inputs sender gone) {top : Path}
    (isTop : top ∈ gone) (under : path.liesUnder top = true)
    (notBack : (path, (merge (inputs.map after)).types path) ∉
      remaining (merge (inputs.map after)) ((inputs.filter (· ≠ sender)).map after) top) :
    (merge (inputs.map after)).types path = "" := by
  apply types_merge_of_empty
  intro scene member
  rcases List.mem_map.mp member with ⟨input, isInput, rfl⟩
  by_cases isSender : input = sender
  · rw [isSender, loses.lost, if_pos ⟨top, isTop, under⟩]
  · rcases loses.trees input isInput isSender with ⟨table, tree, isTable⟩
    have isOther : table.scene ∈ (inputs.filter (· ≠ sender)).map after := by
      rw [← isTable]
      exact List.mem_map_of_mem (List.mem_filter.mpr ⟨isInput, decide_eq_true isSender⟩)
    have absent : table.contains path = false := by
      apply Bool.eq_false_iff.mpr
      intro stored
      exact notBack (mem_remaining_of_tree tree isOther (loses.tops top isTop).2 stored under)
    rw [isTable]
    exact types_of_blank (PrimTable.prim_of_absent absent)

theorem replay_mergedResponse (loses : Loses before after inputs sender gone) :
    (merge (inputs.map before)).types.replayAll
        (mergedResponse (inputs.map after) ((inputs.filter (· ≠ sender)).map after)
          (.removed gone)) =
      (merge (inputs.map after)).types := by
  funext path
  let merged := merge (inputs.map after)
  let others := (inputs.filter (· ≠ sender)).map after
  have known : ∀ entry ∈ onceEach [] (gone.flatMap (remaining merged others)),
      entry.2 = merged.types entry.1 := by
    intro entry member
    rcases List.mem_flatMap.mp (mem_onceEach.mp member) with ⟨top, _, member⟩
    exact (mem_remaining.mp member).1
  have isGone : (∃ top ∈ gone, path = top ∨ path.liesUnder top = true) ↔
      ∃ top ∈ gone, path.liesUnder top = true := by
    constructor
    · rintro ⟨top, isTop, same | under⟩
      · exact ⟨top, isTop, same ▸ Path.liesUnder_self (same ▸ (loses.tops top isTop).1)⟩
      · exact ⟨top, isTop, under⟩
    · rintro ⟨top, isTop, under⟩
      exact ⟨top, isTop, .inr under⟩
  simp only [mergedResponse, TypeMap.replayAll, List.foldl_cons, List.foldl_nil, TypeMap.replay]
  rw [TypeMap.foldl_set _ _ known, TypeMap.foldl_forget]
  simp only [isGone]
  split
  · rfl
  · rename_i notBack
    split
    · rename_i under
      rcases under with ⟨top, isTop, under⟩
      refine (loses.types_of_gone isTop under fun member => notBack ?_).symm
      exact ⟨_, mem_onceEach.mpr (List.mem_flatMap.mpr ⟨top, isTop, member⟩), rfl⟩
    · rename_i notGone
      exact loses.types_of_not_gone notGone

end Loses

end Scene

end LayeredScene
