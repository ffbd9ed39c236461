import LayeredScene.Proofs.Scene.Descent
import LayeredScene.Proofs.Scene.TableTree

/-! # Going down a table

The scene of a table lists the paths that are stored. They form a tree, and the depth of the table
is enough levels for it: whoever goes down from a stored path meets what is stored at and below it.
-/

namespace LayeredScene.PrimTable

variable {table : PrimTable} {path top : Path}

theorem elementCount_le_depth (stored : table.contains path = true) :
    path.elementCount ≤ table.depth := by
  rw [contains_iff_mem, keys] at stored
  rcases List.mem_map.mp stored with ⟨entry, member, rfl⟩
  exact (Scene.le_foldl_max (fun stored => stored.1.elementCount) table.entries 0).2 entry member

namespace IsTree

theorem nodup_children (tree : table.IsTree) (owner : Path) : (table.children owner).Nodup := by
  apply List.nodup_iff_count_le_one.mpr
  intro child
  by_cases member : child ∈ table.children owner
  · have once := tree.listed_once child (tree.child_stored owner child member)
      (tree.child_ne_root owner child member)
    rw [tree.child_parent owner child member] at once
    exact Nat.le_of_eq once
  · rw [List.count_eq_zero.mpr member]
    exact Nat.zero_le 1

theorem mem_children_parent (tree : table.IsTree) (stored : table.contains path = true)
    (notRoot : path ≠ .root) : path ∈ table.children path.parent := by
  apply List.count_pos_iff.mp
  rw [tree.listed_once path stored notRoot]
  exact Nat.one_pos

theorem lists_iff (tree : table.IsTree) : table.scene.lists path = true ↔
    table.contains path = true := by
  by_cases isRoot : path = .root
  · subst path
    exact iff_of_true rfl tree.root_stored
  · rw [Scene.lists_of_ne_root isRoot]
    exact ⟨tree.child_stored path.parent path, fun stored => tree.mem_children_parent stored isRoot⟩

theorem lists_eq (tree : table.IsTree) (path : Path) :
    table.scene.lists path = table.contains path :=
  Bool.eq_iff_iff.mpr tree.lists_iff

theorem scene_isTree (tree : table.IsTree) : table.scene.IsTree where
  isPrim path listed := tree.isPrim path (tree.lists_iff.mp listed)
  parent_listed path listed notRoot :=
    tree.lists_iff.mpr (tree.parent_stored path (tree.lists_iff.mp listed) notRoot)
  child_ne_root := tree.child_ne_root
  child_parent := tree.child_parent
  nodup_children := tree.nodup_children
  elementCount_le_height _ listed := elementCount_le_depth (tree.lists_iff.mp listed)

theorem mem_under_iff (tree : table.IsTree) (stored : table.contains top = true) :
    path ∈ table.scene.under top ↔ table.contains path = true ∧ path.liesUnder top = true := by
  rw [tree.scene_isTree.mem_under_iff (tree.lists_iff.mpr stored), tree.lists_iff]

end IsTree

end LayeredScene.PrimTable
