import LayeredScene.Proofs.Scene.Descent
import LayeredScene.Scene.Merge
import LayeredScene.Search.FirstMention

/-! # Merged scenes are trees

The children of merged scenes are those of all of them, each once, in the order of first mention.
So the scenes that are merged list together what each of them lists, and if their children form
trees, then the merged ones form a tree.
-/

namespace LayeredScene.Scene

variable {scenes : List Scene} {path : Path}

theorem unites_unitePaths : Unites unitePaths where
  nil _ := rfl
  cons _ _ _ := rfl

theorem children_merge (scenes : List Scene) (owner : Path) :
    (merge scenes).children owner = (scenes.flatMap (·.children owner)).eraseDups := by
  rw [← unites_unitePaths.eq_eraseDups, ← unites_unitePaths.foldl]
  rfl

theorem mem_children_merge {owner child : Path} : child ∈ (merge scenes).children owner ↔
    ∃ scene ∈ scenes, child ∈ scene.children owner := by
  rw [children_merge, List.mem_eraseDups, List.mem_flatMap]

theorem hasChild_merge :
    (merge scenes).hasChild path = scenes.any (·.hasChild path) := by
  rw [Bool.eq_iff_iff, hasChild, List.contains_iff_mem, mem_children_merge]
  simp [hasChild]

theorem lists_merge :
    (merge scenes).lists path = (path.isRoot || scenes.any (·.hasChild path)) := by
  rw [lists, hasChild_merge]

theorem lists_merge_iff : (merge scenes).lists path = true ↔
    path = .root ∨ ∃ scene ∈ scenes, scene.lists path = true := by
  by_cases isRoot : path = .root
  · rw [isRoot]
    exact iff_of_true rfl (.inl rfl)
  · simp only [lists_of_ne_root isRoot, mem_children_merge, or_iff_right isRoot]

theorem height_le_merge {scene : Scene} (member : scene ∈ scenes) :
    scene.height ≤ (merge scenes).height :=
  (le_foldl_max height scenes 0).2 scene member

theorem isTree_merge (trees : ∀ scene ∈ scenes, scene.IsTree) : (merge scenes).IsTree where
  isPrim path listed := by
    rcases lists_merge_iff.mp listed with rfl | ⟨scene, member, listed⟩
    · rfl
    · exact (trees scene member).isPrim path listed
  parent_listed path listed notRoot := by
    rcases lists_merge_iff.mp listed with isRoot | ⟨scene, member, listed⟩
    · exact absurd isRoot notRoot
    · exact lists_merge_iff.mpr
        (.inr ⟨scene, member, (trees scene member).parent_listed path listed notRoot⟩)
  child_ne_root owner child member := by
    rcases mem_children_merge.mp member with ⟨scene, isScene, member⟩
    exact (trees scene isScene).child_ne_root owner child member
  child_parent owner child member := by
    rcases mem_children_merge.mp member with ⟨scene, isScene, member⟩
    exact (trees scene isScene).child_parent owner child member
  nodup_children owner := by
    rw [children_merge]
    exact nodup_eraseDups _
  elementCount_le_height path listed := by
    rcases lists_merge_iff.mp listed with rfl | ⟨scene, member, listed⟩
    · exact Nat.zero_le _
    · exact Nat.le_trans ((trees scene member).elementCount_le_height path listed)
        (height_le_merge member)

end LayeredScene.Scene
