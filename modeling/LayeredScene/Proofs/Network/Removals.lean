import LayeredScene.Proofs.Network.Announcing
import LayeredScene.Proofs.Scene.TableDescent

/-! # What removals report

A removal reports whether a path is gone. One that reports nothing has changed nothing at all,
unless it is of a root with a prim that stands alone: the root stays, and its prim goes without a
report. -/

namespace LayeredScene

namespace PrimTable

variable {table : PrimTable} {path : Path} {paths : List Path}

/-! ## One removal -/

def OnlyRoot (table : PrimTable) : Prop := ∀ path, table.contains path = true → path = .root

theorem IsTree.eq_of_onlyRoot (tree : table.IsTree) (onlyRoot : table.OnlyRoot) :
    table = ⟨[(.root, ⟨table.prim .root, []⟩)]⟩ := by
  have childless : table.children .root = [] := by
    apply List.eq_nil_iff_forall_not_mem.mpr
    intro child member
    exact tree.child_ne_root .root child member (onlyRoot child (tree.child_stored _ _ member))
  have areRoots : ∀ stored ∈ table.entries, stored.1 = .root := fun stored member =>
    onlyRoot stored.1 ((table.contains_iff_mem _).mpr (List.mem_map_of_mem member))
  have rootStored := tree.root_stored
  have ordered := tree.ordered
  rcases table with ⟨_ | ⟨⟨first, entry⟩, _ | ⟨second, rest⟩⟩⟩
  · cases rootStored
  · cases areRoots _ List.mem_cons_self
    cases entry
    cases childless
    rfl
  · have apart := (List.pairwise_cons.mp ordered).1 second.1 List.mem_cons_self
    exact absurd ((areRoots _ List.mem_cons_self).trans (areRoots second (by simp)).symm) apart.2

theorem IsTree.one_lt_length_iff (tree : table.IsTree) :
    1 < table.entries.length ↔ ¬table.OnlyRoot := by
  constructor
  · intro several onlyRoot
    rw [tree.eq_of_onlyRoot onlyRoot] at several
    exact Nat.lt_irrefl 1 several
  · intro others
    rcases not_forall.mp others with ⟨path, other⟩
    rcases Classical.not_imp.mp other with ⟨stored, notRoot⟩
    exact one_lt_length tree.root_stored stored notRoot

theorem IsTree.absent_removeSubtree_iff (tree : table.IsTree) (path other : Path) :
    (table.removeSubtree path).1.contains other = false ↔
      other ≠ .root ∧ (table.contains other = true → other.liesUnder path = true) := by
  rw [← Bool.not_eq_true, tree.contains_removeSubtree]
  simp

theorem IsTree.root_reports_iff (tree : table.IsTree) :
    (table.removeSubtree .root).2 = true ↔ ¬table.OnlyRoot :=
  decide_eq_true_iff.trans tree.one_lt_length_iff

theorem IsTree.removeSubtree_reports_iff (tree : table.IsTree) (path : Path) :
    (table.removeSubtree path).2 = true ↔
      ∃ gone, table.contains gone = true ∧ (table.removeSubtree path).1.contains gone = false := by
  simp only [tree.absent_removeSubtree_iff]
  by_cases isRoot : path = .root
  · subst path
    rw [tree.root_reports_iff, OnlyRoot, not_forall]
    apply exists_congr
    intro gone
    rw [Classical.not_imp]
    apply and_congr_right
    intro stored
    rw [and_iff_left]
    intro _
    exact Path.liesUnder_root_iff.mpr (tree.ne_empty stored)
  · rw [removeSubtree_reports isRoot]
    constructor
    · intro stored
      exact ⟨path, stored, isRoot, fun _ => Path.liesUnder_self (tree.ne_empty stored)⟩
    · intro given
      rcases given with ⟨gone, stored, _, under⟩
      exact tree.contains_of_liesUnder stored (under stored)

theorem IsTree.unchanged_iff (tree : table.IsTree)
    (unreported : (table.removeSubtree path).2 = false) :
    (table.removeSubtree path).1 = table ↔ ¬(path = .root ∧ table.prim .root ≠ .blank) := by
  by_cases isRoot : path = .root
  · subst path
    have onlyRoot : table.OnlyRoot := by
      by_contra others
      rw [tree.root_reports_iff.mpr others] at unreported
      cases unreported
    rw [removeSubtree_root, not_and_not_right, imp_iff_right rfl]
    constructor
    · intro same
      rw [← same]
      exact prim_empty .root
    · intro isBlank
      rw [tree.eq_of_onlyRoot onlyRoot, isBlank]
      rfl
  · rw [removeSubtree_reports isRoot] at unreported
    rw [removeSubtree_of_absent unreported (Path.isRoot_eq_false.mpr isRoot)]
    exact iff_of_true rfl fun both => isRoot both.1

/-! ## Several removals -/

theorem IsTree.contains_removeAll_changed (tree : table.IsTree)
    (changed : (table.removeAll paths).1.contains path ≠ table.contains path) :
    ∃ top ∈ (table.removeAll paths).2, path.liesUnder top = true := by
  rw [← or_false (∃ top ∈ (table.removeAll paths).2, path.liesUnder top = true)]
  apply tree.reported_of_changed (·.contains path) _ changed
  intro smaller last isTree _ changed
  left
  cases stored : smaller.contains path with
  | false =>
      have notRoot : path ≠ .root := (ne_of_contains isTree.root_stored stored).symm
      have stillAbsent := (isTree.absent_removeSubtree_iff last path).mpr
        ⟨notRoot, fun isThere => absurd (stored.symm.trans isThere) Bool.false_ne_true⟩
      exact absurd (stillAbsent.trans stored.symm) changed
  | true =>
      rw [stored, ne_eq, Bool.not_eq_true] at changed
      exact ⟨(isTree.removeSubtree_reports_iff last).mpr ⟨path, stored, changed⟩,
        ((isTree.absent_removeSubtree_iff last path).mp changed).2 stored⟩

theorem IsTree.prim_removeAll_eq (tree : table.IsTree) (paths : List Path) (path : Path) :
    (table.removeAll paths).1.prim path =
      if ∃ top ∈ paths, path.liesUnder top = true then .blank else table.prim path := by
  induction paths using List.reverseRecOn with
  | nil => simp [PrimTable.removeAll]
  | append_singleton paths last induction =>
      rw [removeAll_concat, (tree.removeAll paths).prim_removeSubtree, induction]
      cases under : path.liesUnder last <;> simp [under, or_and_right, exists_or]

theorem IsTree.contains_removeAll_iff (tree : table.IsTree) (paths : List Path) (path : Path) :
    (table.removeAll paths).1.contains path = true ↔
      path = .root ∨ table.contains path = true ∧ ∀ top ∈ paths, path.liesUnder top = false := by
  induction paths using List.reverseRecOn with
  | nil =>
      have rootStays : path = .root → table.contains path = true := by
        rintro rfl
        exact tree.root_stored
      simpa [PrimTable.removeAll] using rootStays
  | append_singleton paths last induction =>
      rw [removeAll_concat, (tree.removeAll paths).contains_removeSubtree, induction]
      simp only [List.forall_mem_append, List.forall_mem_singleton]
      tauto

theorem removeAll_append (table : PrimTable) (paths others : List Path) :
    table.removeAll (paths ++ others) =
      (((table.removeAll paths).1.removeAll others).1,
        (table.removeAll paths).2 ++ ((table.removeAll paths).1.removeAll others).2) := by
  induction others using List.reverseRecOn with
  | nil => simp [removeAll]
  | append_singleton others last induction =>
      rw [← List.append_assoc, removeAll_concat, removeAll_concat, induction]
      split <;> simp

theorem reported_subset (table : PrimTable) (paths : List Path) :
    (table.removeAll paths).2 ⊆ paths := by
  induction paths using List.reverseRecOn with
  | nil => exact List.Subset.refl _
  | append_singleton paths last induction =>
      rw [removeAll_concat]
      split
      · exact List.append_subset.mpr
          ⟨List.subset_append_of_subset_left _ induction, List.subset_append_right _ _⟩
      · exact List.subset_append_of_subset_left _ induction

theorem IsTree.reported_of_onlyRoot (tree : table.IsTree) (onlyRoot : table.OnlyRoot)
    (paths : List Path) : (table.removeAll paths).2 = [] := by
  induction paths using List.reverseRecOn with
  | nil => rfl
  | append_singleton paths last induction =>
      rw [removeAll_concat, induction, if_neg]
      rw [(tree.removeAll paths).removeSubtree_reports_iff]
      intro given
      rcases given with ⟨gone, stored, absent⟩
      have isRoot : gone = .root :=
        ((tree.contains_removeAll_iff paths gone).mp stored).elim id fun both => onlyRoot gone both.1
      exact (((tree.removeAll paths).absent_removeSubtree_iff last gone).mp absent).1 isRoot

/-- The root is among removed paths, and all else that is stored lies under those before it. -/
def LeavesRootAlone (table : PrimTable) (paths : List Path) : Prop :=
  ∃ earlier later, paths = earlier ++ .root :: later ∧ .root ∉ earlier ∧
    ∀ path, table.contains path = true → path ≠ .root → ∃ top ∈ earlier, path.liesUnder top = true

theorem IsTree.onlyRoot_removeAll_iff (tree : table.IsTree) (paths : List Path) :
    (table.removeAll paths).1.OnlyRoot ↔
      ∀ path, table.contains path = true → path ≠ .root →
        ∃ top ∈ paths, path.liesUnder top = true := by
  apply forall_congr'
  intro path
  rw [tree.contains_removeAll_iff]
  by_cases isRoot : path = .root
  · simp [isRoot]
  · simp [isRoot]

theorem IsTree.leavesRootAlone_iff (tree : table.IsTree) :
    table.LeavesRootAlone paths ↔ .root ∈ paths ∧ .root ∉ (table.removeAll paths).2 := by
  constructor
  · intro given
    rcases given with ⟨earlier, later, rfl, before, alone⟩
    have onlyRoot := (tree.onlyRoot_removeAll_iff earlier).mpr alone
    constructor
    · simp
    · rw [removeAll_append, (tree.removeAll earlier).reported_of_onlyRoot onlyRoot,
        List.append_nil]
      exact fun member => before (table.reported_subset earlier member)
  · intro given
    rcases given with ⟨member, silent⟩
    rcases List.eq_append_cons_of_mem member with ⟨earlier, later, rfl, before⟩
    refine ⟨earlier, later, rfl, before, (tree.onlyRoot_removeAll_iff earlier).mp ?_⟩
    by_contra others
    apply silent
    have reported := (tree.removeAll earlier).root_reports_iff.mpr others
    rw [← List.singleton_append, removeAll_append, removeAll_append]
    apply List.mem_append_right
    apply List.mem_append_left
    show .root ∈ if (((table.removeAll earlier).1).removeSubtree .root).2 then [Path.root] else []
    rw [if_pos reported]
    exact List.mem_singleton_self _

theorem IsTree.changed_unreported_iff (tree : table.IsTree) (paths : List Path) (path : Path) :
    ((table.removeAll paths).1.prim path ≠ table.prim path ∨
          (table.removeAll paths).1.contains path ≠ table.contains path) ∧
        (∀ top ∈ (table.removeAll paths).2, path.liesUnder top = false) ↔
      path = .root ∧ table.prim .root ≠ .blank ∧ table.LeavesRootAlone paths := by
  rw [tree.leavesRootAlone_iff]
  constructor
  · intro given
    rcases given with ⟨changed, unreported⟩
    have uncovered : ¬∃ top ∈ (table.removeAll paths).2, path.liesUnder top = true := by
      intro covered
      rcases covered with ⟨top, member, under⟩
      exact absurd (under.symm.trans (unreported top member)) (by simp)
    rcases changed with primChanged | goneOrNew
    · rcases tree.prim_removeAll_changed primChanged with covered | ⟨rfl, member, silent⟩
      · exact absurd covered uncovered
      · rw [tree.prim_removeAll_eq, if_pos ⟨.root, member, by decide⟩] at primChanged
        exact ⟨rfl, primChanged.symm, member, silent⟩
    · exact absurd (tree.contains_removeAll_changed goneOrNew) uncovered
  · intro given
    rcases given with ⟨rfl, hasPrim, member, silent⟩
    constructor
    · left
      rw [tree.prim_removeAll_eq, if_pos ⟨.root, member, by decide⟩]
      exact hasPrim.symm
    · intro top reported
      rw [Bool.eq_false_iff, ne_eq, Path.root_liesUnder_iff]
      rintro rfl
      exact silent reported

end PrimTable

namespace Network

/-- A removal reports all that it changes, unless the root is left with a prim when its turn comes
and nothing else is stored. -/
theorem removePrims_reported (history : List PrimTable.Edit) :
    (∀ path, ((PrimTable.afterEdits history).removeSubtree path).2 = false →
      (((PrimTable.afterEdits history).removeSubtree path).1 = .afterEdits history ↔
        ¬(path = .root ∧ (PrimTable.afterEdits history).prim .root ≠ .blank))) ∧
    ∀ {network : Network} {listener number : Nat}, network.Watched listener number [] →
      network.Stores number (.afterEdits history) → ∀ paths, ∃ gone,
        (network.removePrims number paths).heardFrom listener number =
          network.heardFrom listener number ++ (if gone.isEmpty then [] else [.removed gone]) ∧
        ∀ path,
          (((network.removePrims number paths).scene number).prim path ≠
                (network.scene number).prim path ∨
              ((network.removePrims number paths).scene number).lists path ≠
                (network.scene number).lists path) ∧
            (∀ top ∈ gone, path.liesUnder top = false) ↔
          path = .root ∧ (network.scene number).prim .root ≠ .blank ∧
            (PrimTable.afterEdits history).LeavesRootAlone paths := by
  have tree := PrimTable.isTree_afterEdits history
  constructor
  · intro path unreported
    exact tree.unchanged_iff unreported
  · intro network listener number watched stores paths
    have after := stores.called (.remove paths)
    rw [← PrimTable.removeAll_eq] at after
    have afterTree := tree.removeAll paths
    refine ⟨((PrimTable.afterEdits history).removeAll paths).2,
      watched.heardFrom_called stores (.remove paths), ?_⟩
    intro path
    have shown : (network.removePrims number paths).scene number = _ := after.scene
    rw [shown, stores.scene, afterTree.lists_eq, tree.lists_eq]
    exact tree.changed_unreported_iff paths path

def heardStore : Network := (empty.addRetained.2.addListener .plain).2.observe 0 (.listener 0)

theorem watched_heardStore : heardStore.Watched 0 0 [] where
  layered := by
    refine ⟨id, Layered.observe (.addListener Layered.empty.addRetained .plain) (by decide) ?_⟩
    intro index isIndex
    cases isIndex
  stacked := trivial
  listens := by decide

theorem stores_heardStore : heardStore.Stores 0 (.afterEdits []) := ⟨by decide, rfl⟩

def addingInner : SceneCall := .add [(.absolute ["a", "b"] none, ⟨"mesh", none⟩)]

theorem removePrims_reported_above :
    ((PrimTable.afterEdits addingInner.edits).removeSubtree (.absolute ["b"] none)).1 =
        .afterEdits addingInner.edits ∧
      ∃ gone,
        ((heardStore.called 0 addingInner).removePrims 0 [.absolute ["a"] none]).heardFrom 0 0 =
          (heardStore.called 0 addingInner).heardFrom 0 0 ++
            (if gone.isEmpty then [] else [.removed gone]) ∧
        ∃ top ∈ gone, (Path.absolute ["a", "b"] none).liesUnder top = true := by
  have watched := watched_heardStore.called stores_heardStore addingInner
  have stores : (heardStore.called 0 addingInner).Stores 0 (.afterEdits addingInner.edits) :=
    stores_heardStore.called addingInner
  have reported := removePrims_reported addingInner.edits
  rcases reported.2 watched stores [.absolute ["a"] none] with ⟨gone, heard, changes⟩
  constructor
  · exact (reported.1 (.absolute ["b"] none) (by decide +kernel)).mpr (by simp [Path.root])
  · refine ⟨gone, heard, ?_⟩
    by_contra uncovered
    have loses : (((heardStore.called 0 addingInner).removePrims 0
        [.absolute ["a"] none]).scene 0).prim (.absolute ["a", "b"] none) ≠
          ((heardStore.called 0 addingInner).scene 0).prim (.absolute ["a", "b"] none) := by
      intro same
      exact absurd (congrArg Prim.type same) (by decide +kernel)
    have unreported : ∀ top ∈ gone, (Path.absolute ["a", "b"] none).liesUnder top = false := by
      intro top member
      apply Bool.eq_false_iff.mpr
      intro under
      exact uncovered ⟨top, member, under⟩
    have isRoot := ((changes (.absolute ["a", "b"] none)).mp ⟨.inl loses, unreported⟩).1
    cases isRoot

/-- A root that stands alone loses its prim, and nothing is reported. -/
theorem not_reported_removal_of_root :
    (((PrimTable.afterEdits [.store .root ⟨"mesh", none⟩]).removeSubtree .root).2 = false ∧
      (((PrimTable.afterEdits [.store .root ⟨"mesh", none⟩]).removeSubtree .root).1.prim .root).type ≠
        ((PrimTable.afterEdits [.store .root ⟨"mesh", none⟩]).prim .root).type) ∧
    (((heardStore.called 0 (.add [(.root, ⟨"mesh", none⟩)])).removePrims 0 [.root]).heardFrom 0 0 =
        (heardStore.called 0 (.add [(.root, ⟨"mesh", none⟩)])).heardFrom 0 0 ∧
      (((heardStore.called 0 (.add [(.root, ⟨"mesh", none⟩)])).scene 0).prim .root).type = "mesh" ∧
      ((((heardStore.called 0 (.add [(.root, ⟨"mesh", none⟩)])).removePrims 0 [.root]).scene 0).prim
        .root).type = "") := by
  decide +kernel

end Network

end LayeredScene
