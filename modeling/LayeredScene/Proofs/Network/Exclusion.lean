import LayeredScene.Proofs.Network.FilterStack
import LayeredScene.Proofs.Scene.TableDescent

/-! # Excluding other paths

A path filter that is let to leave out other paths announces the difference: what comes into view is
added and what goes out of it is removed. Whoever follows the types that the filter shows gets from
those before to those after by these two batches, and no path is added that is out of view or for
the second time.
-/

namespace LayeredScene

namespace PathPruning

variable {before after : PathPruning} {table : PrimTable} {path top : Path}

theorem coveredBy_paths (pruning : PathPruning) (path : Path) :
    coveredBy pruning.paths path = pruning.prunes path := by
  rw [Bool.eq_iff_iff, coveredBy, List.any_eq_true, prunes_iff]

theorem mem_under_scene (tree : table.IsTree) (stored : table.contains top = true)
    (visible : after.prunes top = false) :
    path ∈ (after.scene table.scene).under top ↔
      table.contains path = true ∧ path.liesUnder top = true ∧ after.prunes path = false := by
  have listed := (lists_scene_iff tree.scene_isTree).mpr (.inr ⟨tree.lists_iff.mpr stored, visible⟩)
  rw [(isTree_scene tree.scene_isTree).mem_under_iff listed, lists_scene_iff tree.scene_isTree,
    tree.lists_iff]
  constructor
  · rintro ⟨rfl | given, under⟩
    · rw [Path.root_liesUnder_iff.mp under] at visible
      exact ⟨tree.root_stored, under, visible⟩
    · exact ⟨given.1, under, given.2⟩
  · exact fun given => ⟨.inr ⟨given.1, given.2.2⟩, given.2.1⟩

theorem mem_exposed (tree : table.IsTree) {entry : Path × Token} :
    entry ∈ exposed before after table.scene ↔
      table.contains entry.1 = true ∧ before.prunes entry.1 = true ∧
        after.prunes entry.1 = false ∧ entry.2 = (table.prim entry.1).type := by
  simp only [exposed, List.mem_flatMap, List.mem_filter, List.mem_map, Bool.not_eq_true',
    coveredBy_paths, tree.lists_iff]
  constructor
  · intro given
    rcases given with ⟨freed, ⟨⟨isPath, visible⟩, stored⟩, path, met, rfl⟩
    rcases (mem_under_scene tree stored visible).mp met with ⟨pathStored, under, pathVisible⟩
    exact ⟨pathStored, (before.prunes_iff path).mpr ⟨freed, isPath, under⟩, pathVisible, rfl⟩
  · intro given
    rcases given with ⟨stored, pruned, visible, isType⟩
    rcases (before.prunes_iff entry.1).mp pruned with ⟨freed, isPath, under⟩
    have freedVisible := not_prunes_of_liesUnder under visible
    have freedStored := tree.contains_of_liesUnder stored under
    refine ⟨freed, ⟨⟨isPath, freedVisible⟩, freedStored⟩, entry.1,
      (mem_under_scene tree freedStored freedVisible).mpr ⟨stored, under, visible⟩, ?_⟩
    exact Prod.ext rfl isType.symm

theorem nodup_exposed (tree : table.IsTree) :
    ((exposed before after table.scene).map (·.1)).Nodup := by
  have freed : ∀ path ∈ (before.paths.filter fun path => !coveredBy after.paths path).filter
      table.scene.lists, table.contains path = true ∧ after.prunes path = false := by
    intro path member
    have parts := List.mem_filter.mp member
    refine ⟨tree.lists_iff.mp parts.2, ?_⟩
    rw [← coveredBy_paths]
    simpa using (List.mem_filter.mp parts.1).2
  have paths : ((exposed before after table.scene).map (·.1)) =
      ((before.paths.filter fun path => !coveredBy after.paths path).filter
        table.scene.lists).flatMap (after.scene table.scene).under := by
    simp [exposed, List.map_flatMap, Scene.typed, Function.comp_def]
  rw [paths]
  apply List.nodup_flatMap.mpr
  constructor
  · intro path member
    have isFreed := freed path member
    exact (isTree_scene tree.scene_isTree).nodup_underSkipping ((lists_scene_iff
      tree.scene_isTree).mpr (.inr ⟨tree.lists_iff.mpr isFreed.1, isFreed.2⟩))
  · apply ((before.isCover.filter _).filter _).imp_of_mem
    intro first second firstMember secondMember apart path inFirst inSecond
    have firstFreed := freed first firstMember
    have secondFreed := freed second secondMember
    have underFirst := ((mem_under_scene tree firstFreed.1 firstFreed.2).mp inFirst).2.1
    have underSecond := ((mem_under_scene tree secondFreed.1 secondFreed.2).mp inSecond).2.1
    have secondUnder := Path.liesUnder_of_between
      (Path.liesUnder_self (tree.ne_empty firstFreed.1)) underFirst apart.1
      (Path.atOrBefore_of_liesUnder underSecond)
    rw [apart.2.2] at secondUnder
    contradiction

theorem exists_mem_hidden (pruned : after.prunes path = true) (seen : before.prunes path = false) :
    ∃ gone ∈ hidden before after, path.liesUnder gone = true := by
  rcases (after.prunes_iff path).mp pruned with ⟨gone, isPath, under⟩
  refine ⟨gone, List.mem_filter.mpr ⟨isPath, ?_⟩, under⟩
  rw [coveredBy_paths, Bool.not_eq_true', Bool.eq_false_iff]
  intro goneBefore
  rw [prunes_of_liesUnder under goneBefore] at seen
  contradiction

theorem types_of_hidden (tree : table.IsTree) (visible : after.prunes path = false)
    (isGone : ∃ gone ∈ hidden before after, path = gone ∨ path.liesUnder gone = true) :
    table.scene.types path = "" := by
  rcases isGone with ⟨gone, member, isGone⟩
  have notUnder : path.liesUnder gone = false := by
    apply Bool.eq_false_iff.mpr
    intro under
    rw [(after.prunes_iff path).mpr ⟨gone, (List.mem_filter.mp member).1, under⟩] at visible
    contradiction
  rcases isGone with rfl | under
  · by_cases isEmpty : path = .empty
    · rw [isEmpty]
      exact Scene.types_of_blank (PrimTable.prim_of_absent tree.empty_absent)
    · rw [Path.liesUnder_self isEmpty] at notUnder
      contradiction
  · rw [under] at notUnder
    contradiction

theorem replay_exposed_hidden (tree : table.IsTree) :
    ((Filter.paths before).shownTypes table.scene.types).replayAll
        [.added (exposed before after table.scene), .removed (hidden before after)] =
      (Filter.paths after).shownTypes table.scene.types := by
  funext path
  have known : ∀ entry ∈ exposed before after table.scene,
      entry.2 = table.scene.types entry.1 := fun entry member =>
    ((mem_exposed tree).mp member).2.2.2
  simp only [TypeMap.replayAll, List.foldl_cons, List.foldl_nil, TypeMap.replay,
    TypeMap.foldl_forget, TypeMap.foldl_set _ _ known, Filter.shownTypes]
  cases pruned : after.prunes path with
  | true =>
      rw [if_pos rfl]
      split
      · rfl
      · rename_i notGone
        -- what stays out of view was out of view before, and is not announced
        have prunedBefore : before.prunes path = true := by
          by_contra seen
          rcases exists_mem_hidden pruned (Bool.eq_false_iff.mpr seen) with ⟨gone, member, under⟩
          exact notGone ⟨gone, member, .inr under⟩
        have notExposed : ¬∃ entry ∈ exposed before after table.scene, path = entry.1 := by
          intro given
          rcases given with ⟨entry, member, rfl⟩
          rw [((mem_exposed tree).mp member).2.2.1] at pruned
          contradiction
        rw [if_neg notExposed, if_pos prunedBefore]
  | false =>
      rw [if_neg Bool.false_ne_true]
      split
      · rename_i isGone
        exact (types_of_hidden tree pruned isGone).symm
      · split
        · rfl
        · rename_i notExposed
          cases prunedBefore : before.prunes path with
          | false => rw [if_neg Bool.false_ne_true]
          | true =>
              -- a prim that came into view would have been announced
              have absent : table.contains path = false := by
                apply Bool.eq_false_iff.mpr
                intro stored
                have isExposed : (path, (table.prim path).type) ∈
                    exposed before after table.scene :=
                  (mem_exposed tree).mpr ⟨stored, prunedBefore, pruned, rfl⟩
                exact notExposed ⟨_, isExposed, rfl⟩
              rw [if_pos rfl]
              exact (Scene.types_of_blank (PrimTable.prim_of_absent absent)).symm

theorem eq_of_paths_eq (same : before.paths = after.paths) : before = after := by
  cases before
  cases after
  cases Array.toList_inj.mp same
  rfl

end PathPruning

namespace Network

variable {network : Network} {rank : Nat → Nat} {number input listener : Nat}

theorem Stores.setIndex_other {table : PrimTable} (stores : network.Stores input table)
    (inside : number < network.levels) (different : input ≠ number) (index : Index) :
    (network.setIndex number index).Stores input table where
  inside := Nat.lt_of_lt_of_eq stores.inside (levels_changeNode network number _).symm
  index := by
    rw [index_setIndex inside, if_neg different]
    exact stores.index

theorem Layered.setExcluded {before : PathPruning} {table : PrimTable}
    (layered : network.Layered rank) (stores : network.Stores input table)
    (index : (network.node number).index = .filter input (.paths before))
    (observed : network.isObserved number = true) {paths : List Path}
    (different : before ≠ .ofPaths paths) :
    ∃ changed, network.SameShape changed ∧ changed.Stores input table ∧
      changed.heard = network.heard ∧
      (changed.node number).index = .filter input (.paths (.ofPaths paths)) ∧
      network.setExcluded number paths = changed.sendAll
        ([.added (PathPruning.exposed before (.ofPaths paths) table.scene),
          .removed (PathPruning.hidden before (.ofPaths paths))].map fun batch =>
            (number, batch)) := by
  have member := mem_inputs_of_filter index
  have inside := inside_of_input member
  have apart : input ≠ number := ne_of_apply_ne rank
    (Nat.ne_of_lt (layered.rank_input number input member))
  have shape : network.SameShape
      (network.setIndex number (.filter input (.paths (.ofPaths paths)))) := by
    apply sameShape_setIndex inside
    rw [index]
    rfl
  have kept := stores.setIndex_other inside apart (.filter input (.paths (.ofPaths paths)))
  have stillObserved : (network.setIndex number
      (.filter input (.paths (.ofPaths paths)))).isObserved number = true := by
    rw [isObserved, shape.observers, shape.lives]
    exact observed
  refine ⟨_, shape, kept, rfl, ?_, ?_⟩
  · rw [index_setIndex inside, if_pos rfl]
  · simp only [Network.setExcluded, index, if_neg different, stillObserved, if_true, kept.scene,
      sendAll, List.map_cons, List.map_nil, List.foldl_cons, List.foldl_nil]

theorem Layered.types_paths {pruning : PathPruning} {table : PrimTable}
    (layered : network.Layered rank) (stores : network.Stores input table)
    (index : (network.node number).index = .filter input (.paths pruning)) :
    network.types number = (Filter.paths pruning).shownTypes table.scene.types := by
  rw [types, layered.scene_filter index, Filter.types_scene, stores.scene]

theorem Layered.sentInAll_self (layered : network.Layered rank) (inside : number < network.levels)
    (batches : List Batch) :
    network.sentInAll number (batches.map fun batch => (number, batch)) =
      batches.filter (!·.isEmpty) := by
  induction batches with
  | nil => rfl
  | cons batch batches induction =>
      rw [sentInAll] at induction
      rw [sentInAll, List.map_cons, List.flatMap_cons, layered.sent_self inside, induction]
      cases isEmpty : batch.isEmpty <;> simp [isEmpty]

theorem Layered.heardFrom_sendAll_self (layered : network.Layered rank)
    (inside : number < network.levels) (listens : .listener listener ∈ network.liveObservers number)
    {batches : List Batch} (noRename : ∀ batch ∈ batches, batch.isRename = false) :
    (network.sendAll (batches.map fun batch => (number, batch))).heardFrom listener number =
      network.heardFrom listener number ++ batches.filter (!·.isEmpty) := by
  have watched : network.Watched listener number [] := ⟨⟨rank, layered⟩, trivial, listens⟩
  have said := layered.sentInAll_self inside batches
  rw [← said]
  apply watched.heardFrom_sendAll
  · simp
  · rw [said]
    exact fun batch member => noRename batch (List.mem_filter.mp member).1

/-- A path filter that is let to leave out other paths announces the difference: two batches, of
which an empty one is not heard, lead from the types that it showed to the types that it shows from
then on, whatever is stored below it. Nothing is added that is left out from then on or for a second
time, and if the smallest covers of the paths are the same, nothing happens. -/
theorem setExcluded_announces {history : List PrimTable.Edit} {former : List Path}
    (layered : network.Layered rank) (stores : network.Stores input (.afterEdits history))
    (index : (network.node number).index = .filter input (.paths (.ofPaths former)))
    (listens : .listener listener ∈ network.liveObservers number) (paths : List Path) :
    ∃ added removed,
      ((network.setExcluded number paths).node number).index =
        .filter input (.paths (.ofPaths paths)) ∧
      (network.setExcluded number paths).heardFrom listener number =
        network.heardFrom listener number ++ [.added added, .removed removed].filter (!·.isEmpty) ∧
      (network.types number).replayAll [.added added, .removed removed] =
        (network.setExcluded number paths).types number ∧
      (∀ entry ∈ added, (PathPruning.ofPaths paths).prunes entry.1 = false) ∧
      (added.map (·.1)).Nodup ∧
      ((PathPruning.ofPaths former).paths = (PathPruning.ofPaths paths).paths →
        network.setExcluded number paths = network) := by
  by_cases same : PathPruning.ofPaths former = .ofPaths paths
  · have unchanged : network.setExcluded number paths = network := by
      simp only [setExcluded, index, if_pos same]
    refine ⟨[], [], ?_, ?_, ?_, by simp, List.nodup_nil, fun _ => unchanged⟩
    · rw [unchanged, index, same]
    · rw [unchanged]
      simp [Batch.isEmpty]
    · rw [unchanged]
      rfl
  · have inside := inside_of_input (mem_inputs_of_filter index)
    have tree := PrimTable.isTree_afterEdits history
    rcases layered.setExcluded stores index (isObserved_of_mem_liveObservers listens) same with
      ⟨changed, shape, kept, unheard, newIndex, sends⟩
    have newLayered := layered.of_sameShape shape
    have wired := sameWiring_sendAll changed
    refine ⟨(PathPruning.ofPaths former).exposed (.ofPaths paths)
      (PrimTable.afterEdits history).scene, (PathPruning.ofPaths former).hidden (.ofPaths paths),
      ?_, ?_, ?_, ?_, PathPruning.nodup_exposed tree, ?_⟩
    · rw [sends, (wired _).node, newIndex]
    · have heard : changed.heardFrom listener number = network.heardFrom listener number := by
        rw [heardFrom, unheard, heardFrom]
      rw [sends, ← heard]
      apply newLayered.heardFrom_sendAll_self (Nat.lt_of_lt_of_eq inside shape.levels.symm)
      · rw [shape.liveObservers]
        exact listens
      · simp [Batch.isRename]
    · rw [sends, types, types, (wired _).scene]
      calc (network.types number).replayAll _
        _ = (Filter.paths (.ofPaths paths)).shownTypes (PrimTable.afterEdits history).scene.types := by
            rw [layered.types_paths stores index, PathPruning.replay_exposed_hidden tree]
        _ = changed.types number := (newLayered.types_paths kept newIndex).symm
    · exact fun entry member => ((PathPruning.mem_exposed tree).mp member).2.2.1
    · exact fun isSame => absurd (PathPruning.eq_of_paths_eq isSame) same

def filteredOnce : Network :=
  let network := empty.addRetained.2
  let network := (network.addFilter 0 (.paths (.ofPaths [.absolute ["hidden"] none])) true).2
  (network.addListener .plain).2.observe 1 (.listener 0)

theorem layered_filteredOnce : filteredOnce.Layered id := by
  apply Layered.observe (.addListener ?_ .plain) (by decide)
  · intro index isIndex
    cases isIndex
  · exact Layered.empty.addRetained.addFilter (by decide) _ true

theorem setExcluded_announces_filteredOnce :
    ∃ added removed,
      ((filteredOnce.addPrims 0 mixedPrims).setExcluded 1 [.absolute ["a"] none]).heardFrom 0 1 =
        (filteredOnce.addPrims 0 mixedPrims).heardFrom 0 1 ++
          [.added added, .removed removed].filter (!·.isEmpty) ∧
      ((filteredOnce.addPrims 0 mixedPrims).types 1).replayAll [.added added, .removed removed] =
        ((filteredOnce.addPrims 0 mixedPrims).setExcluded 1 [.absolute ["a"] none]).types 1 := by
  have empty : filteredOnce.Stores 0 .empty := ⟨by decide, rfl⟩
  have called := empty.sameShape_called (.add mixedPrims)
  have stores : (filteredOnce.addPrims 0 mixedPrims).Stores 0
      (.afterEdits (SceneCall.add mixedPrims).edits) := empty.called (.add mixedPrims)
  have index : ((filteredOnce.addPrims 0 mixedPrims).node 1).index =
      .filter 0 (.paths (.ofPaths [.absolute ["hidden"] none])) :=
    congrArg Node.index (called.2 1 (by decide))
  have listens : .listener 0 ∈ (filteredOnce.addPrims 0 mixedPrims).liveObservers 1 :=
    called.1.liveObservers ▸ (by decide : Observer.listener 0 ∈ filteredOnce.liveObservers 1)
  rcases setExcluded_announces (layered_filteredOnce.of_sameShape called.1) stores index listens
    [.absolute ["a"] none] with ⟨added, removed, _, heard, followed, _⟩
  exact ⟨added, removed, heard, followed⟩

example : ((filteredOnce.addPrims 0 mixedPrims).setExcluded 1 [.absolute ["a"] none]).heardFrom 0 1 =
    [.added [(.absolute ["a"] none, "Xform"), (.absolute ["a", "b"] none, "Mesh")],
      .added [(.absolute ["hidden"] none, ""), (.absolute ["hidden", "c"] none, "Xform")],
      .removed [.absolute ["a"] none]] := by
  decide +kernel

end Network

end LayeredScene
