import LayeredScene.Proofs.Network.Exclusion
import LayeredScene.Proofs.Network.Views
import LayeredScene.Proofs.Path.Outermost

/-! # What a cursor meets behind a path filter

What lies under a path that is left out is left out too, so to leave some paths out of the children
of every prim is to leave them out of a walk. A cursor behind a path filter meets what a cursor
before it meets, in the same order, less the paths that are left out. Of two path filters on top of
each other, either leaves out what it would leave out alone: together they are one filter with the
paths of both.
-/

namespace LayeredScene

namespace PathPruning

variable {pruning : PathPruning} {input : Scene} {paths : List Path} {path top : Path}

theorem prunes_ofPaths_eq (paths : List Path) (path : Path) :
    (ofPaths paths).prunes path = coveredBy paths path := by
  have tops : (ofPaths paths).paths = Path.minimalCover (paths.filter (!·.isEmpty)) := rfl
  rw [Bool.eq_iff_iff, prunes_iff, tops, Path.exists_liesUnder_minimalCover_iff, coveredBy,
    List.any_eq_true]
  constructor
  · intro given
    rcases given with ⟨excluded, member, under⟩
    exact ⟨excluded, (List.mem_filter.mp member).1, under⟩
  · intro given
    rcases given with ⟨excluded, member, under⟩
    have notEmpty := Path.isEmpty_eq_false.mpr (Path.ne_empty_of_liesUnder under).2
    exact ⟨excluded, List.mem_filter.mpr ⟨member, by rw [notEmpty]; rfl⟩, under⟩

theorem coveredBy_append (first second : List Path) (path : Path) :
    coveredBy (first ++ second) path = (coveredBy first path || coveredBy second path) :=
  List.any_append

theorem coveredBy_eq_false_iff :
    coveredBy paths path = false ↔ ∀ excluded ∈ paths, path.liesUnder excluded = false := by
  simp [coveredBy]

/-! ## Walks -/

theorem filter_descend_eq_nil (tree : input.IsTree) (listed : input.lists top = true)
    (pruned : pruning.prunes top = true) (levels : Nat) :
    (Scene.descend input.children (fun _ => false) levels top).filter (!pruning.prunes ·) = [] := by
  apply List.filter_eq_nil_iff.mpr
  intro path met
  rw [prunes_of_liesUnder (tree.of_mem_descend listed met).under pruned]
  decide

theorem descend_scene (tree : input.IsTree) (listed : input.lists top = true)
    (visible : pruning.prunes top = false) (levels : Nat) :
    Scene.descend (pruning.scene input).children (fun _ => false) levels top =
      (Scene.descend input.children (fun _ => false) levels top).filter (!pruning.prunes ·) := by
  induction levels generalizing top with
  | zero => simp [Scene.descend, visible]
  | succ levels induction =>
      have children : (pruning.scene input).children top =
          (input.children top).filter (!pruning.prunes ·) := by
        simp only [scene, visible]
        rfl
      have below : ∀ owners : List Path, (∀ child ∈ owners, child ∈ input.children top) →
          (owners.filter (!pruning.prunes ·)).flatMap
              (Scene.descend (pruning.scene input).children (fun _ => false) levels) =
            (owners.flatMap (Scene.descend input.children (fun _ => false) levels)).filter
              (!pruning.prunes ·) := by
        intro owners areChildren
        induction owners with
        | nil => rfl
        | cons child rest restInduction =>
            have parts := List.forall_mem_cons.mp areChildren
            have childListed := tree.child_listed parts.1
            rw [List.flatMap_cons, List.filter_append, ← restInduction parts.2]
            cases pruned : pruning.prunes child with
            | true => simp [pruned, filter_descend_eq_nil tree childListed pruned]
            | false => simp [pruned, induction childListed pruned]
      rw [Scene.descend, Scene.descend, children, if_neg Bool.false_ne_true,
        if_neg Bool.false_ne_true, below _ fun _ => id, List.filter_cons, visible]
      rfl

theorem under_scene (tree : input.IsTree) (listed : input.lists top = true)
    (visible : pruning.prunes top = false) :
    (pruning.scene input).under top = (input.under top).filter (!pruning.prunes ·) :=
  descend_scene tree listed visible input.height

/-! ## One filter on another -/

theorem scene_scene_ofPaths (first second : List Path) (input : Scene) :
    (ofPaths first).scene ((ofPaths second).scene input) =
      (ofPaths (first ++ second)).scene input := by
  simp only [scene, prunes_ofPaths_eq, coveredBy_append, Scene.mk.injEq, and_true]
  constructor
  · funext path
    cases coveredBy first path <;> cases coveredBy second path <;> rfl
  · funext path
    cases coveredBy first path <;> cases coveredBy second path <;>
      simp [List.filter_filter]

end PathPruning

namespace Network

variable {network : Network} {number input : Nat} {history : List PrimTable.Edit}

theorem Stores.scene_filter {table : PrimTable} {filter : Filter}
    (stores : network.Stores input table)
    (index : (network.node number).index = .filter input filter) :
    network.scene number = filter.scene number input table.scene := by
  have inside := inside_of_input (mem_inputs_of_filter index)
  have different : number ≠ input := by
    intro same
    have stored := stores.index
    rw [← same, index] at stored
    cases stored
  rcases exists_levels inside with ⟨levels, enough⟩
  -- two indices take two levels
  have inputInside : input < network.levels := stores.inside
  rcases Nat.exists_eq_succ_of_ne_zero (show levels ≠ 0 by omega) with ⟨fewer, rfl⟩
  have before : network.sceneThrough fewer.succ input = table.scene := by
    rw [sceneThrough, stores.index]
  rw [Network.scene, enough, sceneThrough, index]
  exact congrArg (filter.scene number input) before

theorem Stores.cursor_meets_filtered {paths : List Path}
    (stores : network.Stores input (.afterEdits history))
    (index : (network.node number).index = .filter input (.paths (.ofPaths paths)))
    (rootKept : ∀ excluded ∈ paths, Path.root.liesUnder excluded = false) :
    ∃ before,
      (∀ met, Cursor.Yields (network.scene input) (fun _ => false) (.startingAt .root) met ↔
        met = before) ∧
      (∀ met, Cursor.Yields (network.scene number) (fun _ => false) (.startingAt .root) met ↔
        met = before.filter (!PathPruning.coveredBy paths ·)) ∧
      (before.filter (!PathPruning.coveredBy paths ·)).Nodup ∧
      ∀ path, path ∈ before.filter (!PathPruning.coveredBy paths ·) ↔
        (PrimTable.afterEdits history).contains path = true ∧
          ∀ excluded ∈ paths, path.liesUnder excluded = false := by
  have tree := PrimTable.isTree_afterEdits history
  have sceneTree := tree.scene_isTree
  have visible : (PathPruning.ofPaths paths).prunes .root = false := by
    rw [PathPruning.prunes_ofPaths_eq]
    exact PathPruning.coveredBy_eq_false_iff.mpr rootKept
  have shown : network.scene number =
      (PathPruning.ofPaths paths).scene (PrimTable.afterEdits history).scene :=
    stores.scene_filter index
  have kept := PathPruning.under_scene sceneTree rfl visible
  simp only [PathPruning.prunes_ofPaths_eq] at kept
  refine ⟨(PrimTable.afterEdits history).scene.under .root, ?_, ?_, ?_, ?_⟩
  · rw [stores.scene]
    exact sceneTree.yields_iff _ _
  · rw [shown, ← kept]
    exact (PathPruning.isTree_scene sceneTree).yields_iff _ _
  · exact (sceneTree.nodup_underSkipping rfl).filter _
  · intro path
    rw [List.mem_filter, Bool.not_eq_true', PathPruning.coveredBy_eq_false_iff,
      sceneTree.mem_under_iff rfl, tree.lists_iff]
    apply and_congr_left'
    rw [and_iff_left_iff_imp]
    exact fun contained => Path.liesUnder_root_iff.mpr (tree.ne_empty contained)

theorem Layered.scene_stacked {rank : Nat → Nat} {lower upper whole : Nat}
    {first second : List Path} (layered : network.Layered rank)
    (lowerIndex : (network.node lower).index = .filter input (.paths (.ofPaths second)))
    (upperIndex : (network.node upper).index = .filter lower (.paths (.ofPaths first)))
    (wholeIndex :
      (network.node whole).index = .filter input (.paths (.ofPaths (first ++ second)))) :
    network.scene upper = network.scene whole := by
  rw [layered.scene_filter upperIndex, layered.scene_filter lowerIndex,
    layered.scene_filter wholeIndex]
  exact PathPruning.scene_scene_ofPaths first second (network.scene input)

/-- A path filter leaves of what is below it what lies under none of its paths, and stacking such
filters unites their paths. Over stored prims a cursor comes to an end behind a filter that keeps
the root. It meets what it meets before the filter, in the same order, less what lies under the
paths of the filter: the stored paths under none of them, each of them once. Over any scene, and so
over any index of a network in layers, a filter on a filter has the same prims and the same children
as one filter with the paths of both. -/
theorem path_filters_exclude_and_unite (network : Network) (input : Nat) :
    (∀ (number : Nat) (history : List PrimTable.Edit) (paths : List Path),
      network.Stores input (.afterEdits history) →
      (network.node number).index = .filter input (.paths (.ofPaths paths)) →
      (∀ excluded ∈ paths, Path.root.liesUnder excluded = false) →
      ∃ before,
        (∀ met, Cursor.Yields (network.scene input) (fun _ => false) (.startingAt .root) met ↔
          met = before) ∧
        (∀ met, Cursor.Yields (network.scene number) (fun _ => false) (.startingAt .root) met ↔
          met = before.filter (!PathPruning.coveredBy paths ·)) ∧
        (before.filter (!PathPruning.coveredBy paths ·)).Nodup ∧
        ∀ path, path ∈ before.filter (!PathPruning.coveredBy paths ·) ↔
          (PrimTable.afterEdits history).contains path = true ∧
            ∀ excluded ∈ paths, path.liesUnder excluded = false) ∧
    (∀ (below : Scene) (lower upper : Nat) (first second : List Path) (path : Path),
      let stacked := (Filter.paths (.ofPaths first)).scene upper lower
        ((Filter.paths (.ofPaths second)).scene lower input below)
      let whole := (Filter.paths (.ofPaths (first ++ second))).scene upper input below
      stacked.prim path = whole.prim path ∧ stacked.children path = whole.children path) ∧
    ∀ (rank : Nat → Nat) (lower upper whole : Nat) (first second : List Path),
      network.Layered rank →
      (network.node lower).index = .filter input (.paths (.ofPaths second)) →
      (network.node upper).index = .filter lower (.paths (.ofPaths first)) →
      (network.node whole).index = .filter input (.paths (.ofPaths (first ++ second))) →
      ∀ path, (network.scene upper).prim path = (network.scene whole).prim path ∧
        (network.scene upper).children path = (network.scene whole).children path := by
  refine ⟨?_, ?_, ?_⟩
  · intro number history paths stores index rootKept
    exact stores.cursor_meets_filtered index rootKept
  · intro below lower upper first second path stacked whole
    have same : stacked = whole := PathPruning.scene_scene_ofPaths first second below
    rw [same]
    exact ⟨rfl, rfl⟩
  · intro rank lower upper whole first second layered lowerIndex upperIndex wholeIndex path
    rw [layered.scene_stacked lowerIndex upperIndex wholeIndex]
    exact ⟨rfl, rfl⟩

def stackedFilters : Network :=
  let network := empty.addRetained.2
  let network := (network.addFilter 0 (.paths (.ofPaths [.absolute ["hidden"] none])) true).2
  let network := (network.addFilter 1
    (.paths (.ofPaths [.absolute ["hidden", "c"] none, .absolute ["a", "b"] none])) true).2
  (network.addFilter 0 (.paths (.ofPaths ([.absolute ["hidden", "c"] none,
    .absolute ["a", "b"] none] ++ [.absolute ["hidden"] none]))) true).2

theorem layered_stackedFilters : stackedFilters.Layered id :=
  ((Layered.empty.addRetained.addFilter (by decide) _ true).addFilter (by decide) _ true).addFilter
    (by decide) _ true

theorem path_filters_exclude_and_unite_stackedFilters :
    Cursor.Yields ((stackedFilters.addPrims 0 mixedPrims).scene 1) (fun _ => false)
        (.startingAt .root)
        [.root, .absolute ["a"] none, .absolute ["a", "b"] none] ∧
      (stackedFilters.scene 2).prim (.absolute ["a"] none) =
        (stackedFilters.scene 3).prim (.absolute ["a"] none) := by
  have empty : stackedFilters.Stores 0 .empty := ⟨by decide, rfl⟩
  have called := empty.sameShape_called (.add mixedPrims)
  have stores : (stackedFilters.addPrims 0 mixedPrims).Stores 0
      (.afterEdits (SceneCall.add mixedPrims).edits) := empty.called (.add mixedPrims)
  have index : ((stackedFilters.addPrims 0 mixedPrims).node 1).index =
      .filter 0 (.paths (.ofPaths [.absolute ["hidden"] none])) :=
    congrArg Node.index (called.2 1 (by decide))
  constructor
  · rcases (path_filters_exclude_and_unite _ 0).1 1 _ _ stores index (by decide) with
      ⟨before, all, filtered, _⟩
    have met : Cursor.Yields ((stackedFilters.addPrims 0 mixedPrims).scene 0) (fun _ => false)
        (.startingAt .root) ((PrimTable.afterEdits (SceneCall.add mixedPrims).edits).scene.under
          .root) := by
      rw [stores.scene]
      exact ((PrimTable.isTree_afterEdits _).scene_isTree.yields_iff _ _ _).mpr rfl
    rw [filtered, ← (all _).mp met]
    decide +kernel
  · exact ((path_filters_exclude_and_unite stackedFilters 0).2.2 id 1 2 3 _ _ layered_stackedFilters
      rfl rfl rfl _).1

end Network

end LayeredScene
