import LayeredScene.Proofs.Network.Merging
import LayeredScene.Proofs.Scene.MergedTree
import LayeredScene.Proofs.Scene.Traversal
import LayeredScene.Proofs.Source.Overlay

/-! # What a cursor meets in a network

Over an index of stored prims a cursor meets what is stored at and below its start, without what
lies below the paths that it is told to skip: each path directly before what lies below it, and the
children of a path in the order in which they came. Over an index that merges such indices it meets
the root and then what any of them stores. A merged prim has the first type that is not empty, and
the overlay of the data there is for it. -/

namespace LayeredScene.Network

variable {network : Network} {number : Nat} {inputs : List Nat} {history : List PrimTable.Edit}

/-! ## Stored prims -/

/-- Over stored prims a cursor comes to an end, wherever it starts and whatever it skips. It meets
the stored paths at and below its start, above which nothing is skipped, each of them once. What it
meets from a path on is the path itself, and unless it is skipped what is met from its children on,
child by child. -/
theorem Stores.cursor_meets {top : Path} (stores : network.Stores number (.afterEdits history))
    (contained : (PrimTable.afterEdits history).contains top = true) (skips : Path → Bool) :
    (∀ met, Cursor.Yields (network.scene number) skips (.startingAt top) met ↔
      met = (network.scene number).underSkipping skips top) ∧
    (∀ path, path ∈ (network.scene number).underSkipping skips top ↔
      (PrimTable.afterEdits history).contains path = true ∧ path.liesUnder top = true ∧
        ∀ above, path.liesUnder above = true → above.liesUnder top = true → above ≠ path →
          skips above = false) ∧
    ((network.scene number).underSkipping skips top).Nodup ∧
    ∀ owner, (network.scene number).underSkipping skips owner =
      owner :: if skips owner then []
        else ((PrimTable.afterEdits history).children owner).flatMap
          ((network.scene number).underSkipping skips) := by
  have tree := PrimTable.isTree_afterEdits history
  have sceneTree := tree.scene_isTree
  have listed := tree.lists_iff.mpr contained
  rw [stores.scene]
  refine ⟨sceneTree.yields_iff skips top, ?_, sceneTree.nodup_underSkipping listed,
    sceneTree.underSkipping_eq skips⟩
  intro path
  rw [sceneTree.mem_underSkipping_iff listed]
  constructor
  · exact fun meets => ⟨tree.lists_iff.mp meets.listed, meets.under, meets.kept⟩
  · exact fun given => ⟨tree.lists_iff.mpr given.1, given.2.1, given.2.2⟩

def branching : Network :=
  empty.addRetained.2.afterCalls 0 [.add [(.absolute ["b", "inner"] none, ⟨"Mesh", none⟩),
    (.absolute ["a", "inner"] none, ⟨"Mesh", none⟩)]]

theorem Stores.cursor_meets_branching :
    Cursor.Yields (branching.scene 0) (· == .absolute ["b"] none) (.startingAt .root)
      [.root, .absolute ["b"] none, .absolute ["a"] none, .absolute ["a", "inner"] none] := by
  have stores : branching.Stores 0 (.afterEdits _) := (Stores.addRetained empty).afterCalls _
  exact ((stores.cursor_meets (by decide +kernel) _).1 _).mpr (by decide +kernel)

/-! ## Merged prims -/

/-- An index stores something at a path. -/
def StoresAt (network : Network) (number : Nat) (path : Path) : Prop :=
  ∃ table, network.Stores number table ∧ table.contains path = true

/-- The data that some indices have for the prim at a path, that of the strongest first. -/
def dataAt (network : Network) (inputs : List Nat) (path : Path) : List Container :=
  inputs.filterMap fun input => ((network.scene input).prim path).data

theorem scene_merging_stores (index : (network.node number).index = .merging inputs)
    (stores : ∀ input ∈ inputs, ∃ history, network.Stores input (.afterEdits history)) :
    network.scene number = .merge (inputs.map network.scene) := by
  have inside := inside_of_merging index
  rcases exists_levels inside with ⟨levels, enough⟩
  have below : ∀ input ∈ inputs, network.sceneThrough levels input = network.scene input := by
    intro input member
    rcases stores input member with ⟨history, stored⟩
    -- two indices take two levels
    have different := stored.ne_of_merging index
    have inputInside : input < network.levels := stored.inside
    rcases Nat.exists_eq_succ_of_ne_zero (show levels ≠ 0 by omega) with ⟨fewer, rfl⟩
    rw [stored.scene, sceneThrough, stored.index]
  rw [scene, enough, sceneThrough, index]
  exact congrArg Scene.merge (List.map_congr_left below)

theorem Stores.storesAt_iff {input : Nat} {path : Path}
    (stores : network.Stores input (.afterEdits history)) :
    network.StoresAt input path ↔ (network.scene input).lists path = true := by
  have tree := PrimTable.isTree_afterEdits history
  rw [stores.scene, tree.lists_iff]
  constructor
  · intro given
    rcases given with ⟨table, stored, contained⟩
    have same := stored.index.symm.trans stores.index
    cases same
    exact contained
  · intro contained
    exact ⟨_, stores, contained⟩

theorem lists_merged_iff {path : Path}
    (stores : ∀ input ∈ inputs, ∃ history, network.Stores input (.afterEdits history)) :
    (Scene.merge (inputs.map network.scene)).lists path = true ↔
      path = .root ∨ ∃ input ∈ inputs, network.StoresAt input path := by
  rw [Scene.lists_merge_iff]
  apply or_congr_right
  constructor
  · intro given
    rcases given with ⟨scene, member, listed⟩
    rcases List.mem_map.mp member with ⟨input, isInput, rfl⟩
    rcases stores input isInput with ⟨history, stored⟩
    exact ⟨input, isInput, stored.storesAt_iff.mpr listed⟩
  · intro given
    rcases given with ⟨input, isInput, storesAt⟩
    rcases stores input isInput with ⟨history, stored⟩
    exact ⟨_, List.mem_map_of_mem isInput, stored.storesAt_iff.mp storesAt⟩

theorem storesAt_root (nonempty : inputs ≠ [])
    (stores : ∀ input ∈ inputs, ∃ history, network.Stores input (.afterEdits history)) :
    ∃ input ∈ inputs, network.StoresAt input .root := by
  rcases List.exists_mem_of_ne_nil inputs nonempty with ⟨input, member⟩
  rcases stores input member with ⟨history, stored⟩
  exact ⟨input, member, stored.storesAt_iff.mpr rfl⟩

theorem isTree_merged
    (stores : ∀ input ∈ inputs, ∃ history, network.Stores input (.afterEdits history)) :
    (Scene.merge (inputs.map network.scene)).IsTree := by
  apply Scene.isTree_merge
  intro scene member
  rcases List.mem_map.mp member with ⟨input, isInput, rfl⟩
  rcases stores input isInput with ⟨history, stored⟩
  rw [stored.scene]
  exact (PrimTable.isTree_afterEdits history).scene_isTree

theorem data_merged (network : Network) (inputs : List Nat) (path : Path) :
    ((Scene.merge (inputs.map network.scene)).prim path).data =
      Container.overlayAll (network.dataAt inputs path) := by
  simp [Scene.merge, Scene.mergedPrim, dataAt, List.filterMap_map, Function.comp_def]

/-- The scene of an index that merges indices of stored prims is their union. A cursor that starts
at the root comes to an end there. It meets the root, and each path that any of them stores, once
and after the path above it; if any index is merged, the root is one of these. The type of a prim is
the first that is not empty. There is no data if none of them has any, that of the only one that has
some is taken as it is, and that of several is overlaid. -/
theorem cursor_meets_union (index : (network.node number).index = .merging inputs)
    (stores : ∀ input ∈ inputs, ∃ history, network.Stores input (.afterEdits history)) :
    (∃ paths,
      (∀ met, Cursor.Yields (network.scene number) (fun _ => false) (.startingAt .root) met ↔
        met = paths) ∧
      paths.Nodup ∧
      (∀ path, path ∈ paths ↔
        path = .root ∨ ∃ input ∈ inputs, network.StoresAt input path) ∧
      (inputs ≠ [] → ∀ path, path ∈ paths ↔ ∃ input ∈ inputs, network.StoresAt input path) ∧
      ∀ before path after, paths = before ++ path :: after → path ≠ .root → path.parent ∈ before) ∧
    ∀ path,
      network.types number path =
        ((inputs.map (network.types · path)).find? (!·.isEmpty)).getD "" ∧
      (network.dataAt inputs path = [] → ((network.scene number).prim path).data = none) ∧
      (∀ single, network.dataAt inputs path = [single] →
        ((network.scene number).prim path).data = some single) ∧
      (1 < (network.dataAt inputs path).length →
        ∃ container, ((network.scene number).prim path).data = some container ∧
          container.IsOverlay (network.dataAt inputs path)) := by
  have tree := isTree_merged stores
  have met : ∀ path,
      path ∈ (Scene.merge (inputs.map network.scene)).underSkipping (fun _ => false) .root ↔
        path = .root ∨ ∃ input ∈ inputs, network.StoresAt input path := by
    intro path
    apply (tree.mem_under_iff rfl).trans
    rw [← lists_merged_iff stores, and_iff_left_iff_imp]
    intro listed
    exact Path.liesUnder_root_iff.mpr (Path.ne_empty_of_isPrim (tree.isPrim path listed))
  rw [Network.types, scene_merging_stores index stores]
  constructor
  · refine ⟨_, tree.yields_iff _ _, tree.nodup_underSkipping rfl, met, ?_, ?_⟩
    · intro nonempty path
      rw [met]
      apply or_iff_right_of_imp
      intro isRoot
      rw [isRoot]
      exact storesAt_root nonempty stores
    · intro before path after split notRoot
      exact tree.parent_mem_before rfl split notRoot
  · intro path
    rw [data_merged, Scene.types_merge, List.map_map]
    refine ⟨rfl, ?_, ?_, Container.overlayAll_isOverlay⟩
    · intro nothing
      rw [nothing]
      rfl
    · intro single only
      rw [only]
      rfl

def overlaidPair : Network :=
  mergedPair.afterAllCalls
    [(0, .add [(.absolute ["a"] none,
        ⟨"", some (.retained (.whole 1) [("hidden", some .block)])⟩)]),
      (1, .add [(.absolute ["a"] none, ⟨"Scope", some (.retained (.whole 2)
          [("hidden", some (.sampled (.constant (.whole 3) (.single .int 1)))), ("shown", none)])⟩),
        (.absolute ["b"] none, ⟨"Mesh", none⟩)])]

theorem cursor_meets_union_overlaidPair :
    (∃ met, Cursor.Yields (overlaidPair.scene 2) (fun _ => false) (.startingAt .root) met ∧
      .absolute ["b"] none ∈ met) ∧
    overlaidPair.types 2 (.absolute ["a"] none) = "Scope" ∧
    ∃ container, ((overlaidPair.scene 2).prim (.absolute ["a"] none)).data = some container ∧
      container.IsOverlay (overlaidPair.dataAt [0, 1] (.absolute ["a"] none)) := by
  have merged : overlaidPair.Merged 0 2 [0, 1] := merged_mergedPair.afterAllCalls (by decide)
  rcases cursor_meets_union merged.index merged.stores with ⟨⟨paths, yields, _, stored, _⟩, shown⟩
  have atA := shown (.absolute ["a"] none)
  refine ⟨⟨paths, (yields paths).mpr rfl, ?_⟩, ?_, atA.2.2.2 (by decide +kernel)⟩
  · rcases merged.stores 1 (by decide) with ⟨history, weaker⟩
    apply (stored _).mpr
    exact .inr ⟨1, by decide, weaker.storesAt_iff.mpr (by decide +kernel)⟩
  · rw [atA.1]
    decide +kernel

/-- Over an index that merges none a cursor meets the root, which no input stores. -/
theorem not_union_of_none :
    let network := (empty.addMerging []).2
    (network.node 0).index = .merging [] ∧
      Cursor.Yields (network.scene 0) (fun _ => false) (.startingAt .root) [.root] ∧
      ¬∃ input ∈ ([] : List Nat), network.StoresAt input .root := by
  refine ⟨rfl, .step rfl (.done rfl), ?_⟩
  intro given
  rcases given with ⟨input, isInput, _⟩
  cases isInput

end LayeredScene.Network
