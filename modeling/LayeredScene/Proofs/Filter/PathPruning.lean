import LayeredScene.Filter.PathPruning
import LayeredScene.Proofs.Scene.Descent

/-! # Exact exclusion

A path filter decides by one look-up whether it leaves a path out. The look-up is exact: what is
above a path in a smallest cover, if anything is, is the last member that comes no later than the
path, because every member between the two would lie under the first. What is left of a tree is a
tree.
-/

namespace LayeredScene

namespace Path

section Cover

variable {cover : Array Path} {path : Path}

theorem IsCover.getElem (isCover : IsCover cover.toList) {earlier later : Nat}
    (ordered : earlier < later) (inside : later < cover.size) :
    cover[earlier].atOrBefore cover[later] = true ∧
      cover[later].liesUnder cover[earlier] = false := by
  have separate := List.pairwise_iff_getElem.mp isCover earlier later (by simp; omega)
    (by simpa using inside) ordered
  simp only [Array.getElem_toList] at separate
  exact ⟨separate.1, separate.2.2⟩

theorem countAtOrBefore_le (cover : Array Path) (path : Path) :
    countAtOrBefore cover path ≤ cover.size :=
  (bisect_bounds _ 0 cover.size (Nat.zero_le _)).2

theorem lt_countAtOrBefore_iff (isCover : IsCover cover.toList) (path : Path) {position : Nat}
    (inside : position < cover.size) :
    position < countAtOrBefore cover path ↔ cover[position].atOrBefore path = true := by
  rw [countAtOrBefore, lt_bisect_iff _ (Nat.zero_le position) inside,
    Array.getElem?_eq_getElem inside, Option.getD_some]
  intro earlier later ordered inside laterFirst
  rcases Nat.lt_or_eq_of_le ordered with less | rfl
  · rw [Array.getElem?_eq_getElem inside, Option.getD_some] at laterFirst
    rw [Array.getElem?_eq_getElem (by omega), Option.getD_some]
    exact atOrBefore_trans (isCover.getElem less inside).1 laterFirst
  · exact laterFirst

theorem liesUnderCover_iff (isCover : IsCover cover.toList) :
    path.liesUnderCover cover = true ↔ ∃ top ∈ cover.toList, path.liesUnder top = true := by
  have bound := countAtOrBefore_le cover path
  constructor
  · intro under
    rw [liesUnderCover] at under
    split at under
    · contradiction
    · rename_i last isLast
      have inside : last < cover.size := by omega
      rw [Array.getElem?_eq_getElem inside, Option.getD_some] at under
      exact ⟨cover[last], by simp, under⟩
  · intro given
    rcases given with ⟨top, member, under⟩
    rcases List.mem_iff_getElem.mp member with ⟨position, inside, rfl⟩
    simp only [Array.length_toList] at inside
    simp only [Array.getElem_toList] at under
    have counted := (lt_countAtOrBefore_iff isCover path inside).mpr (atOrBefore_of_liesUnder under)
    rw [liesUnderCover]
    split
    · omega
    · rename_i last isLast
      have lastInside : last < cover.size := by omega
      have lastFirst := (lt_countAtOrBefore_iff isCover path lastInside).mp (by omega)
      rw [Array.getElem?_eq_getElem lastInside, Option.getD_some]
      rcases Nat.lt_or_eq_of_le (show position ≤ last by omega) with less | rfl
      · have separate := isCover.getElem less lastInside
        have lastUnder := liesUnder_of_between
          (liesUnder_self (ne_empty_of_liesUnder under).2) under separate.1 lastFirst
        rw [separate.2] at lastUnder
        contradiction
      · exact under

end Cover

end Path

namespace PathPruning

theorem prunes_iff (pruning : PathPruning) (path : Path) :
    pruning.prunes path = true ↔ ∃ top ∈ pruning.paths, path.liesUnder top = true :=
  Path.liesUnderCover_iff pruning.isCover

theorem prunes_of_liesUnder {pruning : PathPruning} {path above : Path}
    (under : path.liesUnder above = true) (pruned : pruning.prunes above = true) :
    pruning.prunes path = true := by
  rcases (pruning.prunes_iff above).mp pruned with ⟨top, member, aboveUnder⟩
  exact (pruning.prunes_iff path).mpr ⟨top, member, Path.liesUnder_trans under aboveUnder⟩

/-- A filter made from paths leaves out exactly what lies under one of them, in whatever order, how
often and how nested they are given. -/
theorem prunes_ofPaths (paths : List Path) (path : Path) :
    (ofPaths paths).prunes path = true ↔
      ∃ excluded ∈ paths, excluded ≠ .empty ∧ path.liesUnder excluded = true := by
  rw [prunes_iff]
  constructor
  · intro given
    rcases given with ⟨top, member, under⟩
    have given := Path.mem_of_mem_minimalCover member
    exact ⟨top, (List.mem_filter.mp given).1, (Path.ne_empty_of_liesUnder under).2, under⟩
  · intro given
    rcases given with ⟨excluded, member, notEmpty, under⟩
    have given : excluded ∈ paths.filter (!·.isEmpty) := by
      apply List.mem_filter.mpr ⟨member, _⟩
      cases excluded with
      | empty => exact absurd rfl notEmpty
      | absolute => rfl
    rcases Path.exists_mem_minimalCover given with ⟨top, isTop, rfl | above⟩
    · exact ⟨excluded, isTop, under⟩
    · exact ⟨top, isTop, Path.liesUnder_trans under above⟩

/-! ## What is left of a tree -/

variable {pruning : PathPruning} {input : Scene} {path : Path}

theorem not_prunes_of_liesUnder {above : Path} (under : path.liesUnder above = true)
    (visible : pruning.prunes path = false) : pruning.prunes above = false := by
  apply Bool.eq_false_iff.mpr
  intro pruned
  rw [prunes_of_liesUnder under pruned] at visible
  contradiction

theorem mem_children_scene {owner child : Path} :
    child ∈ (pruning.scene input).children owner ↔
      child ∈ input.children owner ∧ pruning.prunes owner = false ∧ pruning.prunes child = false := by
  simp only [scene]
  cases pruning.prunes owner with
  | true => simp
  | false => simp

theorem lists_scene_iff (tree : input.IsTree) : (pruning.scene input).lists path = true ↔
    path = .root ∨ input.lists path = true ∧ pruning.prunes path = false := by
  by_cases isRoot : path = .root
  · rw [isRoot]
    exact iff_of_true rfl (.inl rfl)
  · rw [Scene.lists_of_ne_root isRoot, mem_children_scene, ← Scene.lists_of_ne_root isRoot,
      or_iff_right isRoot]
    constructor
    · exact fun given => ⟨given.1, given.2.2⟩
    · intro given
      have under := Path.liesUnder_parent (tree.isPrim path given.1) isRoot
      exact ⟨given.1, not_prunes_of_liesUnder under given.2, given.2⟩

theorem isTree_scene (tree : input.IsTree) : (pruning.scene input).IsTree := by
  have listed : ∀ path, (pruning.scene input).lists path = true → input.lists path = true := by
    intro path isListed
    rcases (lists_scene_iff tree).mp isListed with rfl | given
    · rfl
    · exact given.1
  constructor
  · exact fun path isListed => tree.isPrim path (listed path isListed)
  · intro path isListed notRoot
    rcases (lists_scene_iff tree).mp isListed with isRoot | given
    · exact absurd isRoot notRoot
    · have under := Path.liesUnder_parent (tree.isPrim path given.1) notRoot
      exact (lists_scene_iff tree).mpr (.inr ⟨tree.parent_listed path given.1 notRoot,
        not_prunes_of_liesUnder under given.2⟩)
  · exact fun owner child member => tree.child_ne_root owner child (mem_children_scene.mp member).1
  · exact fun owner child member => tree.child_parent owner child (mem_children_scene.mp member).1
  · intro owner
    simp only [scene]
    split
    · exact List.nodup_nil
    · exact (tree.nodup_children owner).filter _
  · exact fun path isListed => tree.elementCount_le_height path (listed path isListed)

end PathPruning

end LayeredScene
