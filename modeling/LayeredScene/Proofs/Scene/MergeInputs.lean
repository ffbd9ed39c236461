import LayeredScene.Proofs.Scene.MergedTree
import LayeredScene.Proofs.Scene.Merging

/-! # Scenes that join merged scenes or leave them

What merged scenes announce of one that joins them leads from the types that they showed to those
that they show. What they announce of one that leaves them takes away what none of the others has.
It says nothing of what the others have, though some of that may have had its type from the one that
left. -/

namespace LayeredScene.Scene

variable {scenes all rest : List Scene} {scene leaving : Scene} {table : PrimTable}
variable {path above owner : Path} {skips : Path → Bool}

/-! ## Joining -/

theorem types_merge_append_of_empty (empty : scene.types path = "") :
    (merge (scenes ++ [scene])).types path = (merge scenes).types path := by
  rw [types_merge, types_merge, List.map_append, List.find?_append, List.map_singleton, empty]
  cases (scenes.map (·.types path)).find? (!·.isEmpty) <;> rfl

theorem replay_announcedByJoining (tree : table.IsTree) (scenes : List Scene) :
    (merge scenes).types.replay
        (.added (announcedByJoining (scenes ++ [table.scene]) table.scene)) =
      (merge (scenes ++ [table.scene])).types := by
  funext path
  have known : ∀ entry ∈ announcedByJoining (scenes ++ [table.scene]) table.scene,
      entry.2 = (merge (scenes ++ [table.scene])).types entry.1 := by
    intro entry member
    rcases List.mem_map.mp member with ⟨told, _, rfl⟩
    rfl
  rw [TypeMap.replay, TypeMap.foldl_set _ _ known]
  split
  · rfl
  · rename_i notTold
    have absent : table.contains path = false := by
      apply Bool.eq_false_iff.mpr
      intro stored
      have under : path.liesUnder .root = true :=
        Path.liesUnder_root_iff.mpr (tree.ne_empty stored)
      have met := (tree.mem_under_iff tree.root_stored).mpr ⟨stored, under⟩
      exact notTold ⟨_, List.mem_map_of_mem met, rfl⟩
    exact (types_merge_append_of_empty (types_of_blank (PrimTable.prim_of_absent absent))).symm

/-! ## Leaving -/

def AreTrees (scenes : List Scene) : Prop :=
  ∀ scene ∈ scenes, ∃ table : PrimTable, table.IsTree ∧ scene = table.scene

namespace AreTrees

theorem isTree (trees : AreTrees scenes) : (merge scenes).IsTree := by
  apply isTree_merge
  intro scene member
  rcases trees scene member with ⟨table, tree, rfl⟩
  exact tree.scene_isTree

theorem types_of_not_lists_merge (trees : AreTrees scenes)
    (unlisted : (merge scenes).lists path = false) (member : scene ∈ scenes) :
    scene.types path = "" := by
  rcases trees scene member with ⟨table, tree, rfl⟩
  have absent : table.contains path = false := by
    apply Bool.eq_false_iff.mpr
    intro stored
    have listed := lists_merge_iff.mpr (.inr ⟨table.scene, member, tree.lists_iff.mpr stored⟩)
    rw [listed] at unlisted
    contradiction
  exact types_of_blank (PrimTable.prim_of_absent absent)

end AreTrees

theorem lostByLeaving_eq (rest : List Scene) (leaving : Scene) :
    lostByLeaving rest leaving =
      (leaving.underSkipping (fun path => !(merge rest).lists path) .root).filter fun path =>
        !(merge rest).lists path := by
  simp only [lostByLeaving, lists_merge, Bool.not_or]

theorem lostByLeaving_sublist (rest : List Scene) (leaving : Scene) :
    (lostByLeaving rest leaving).Sublist (leaving.under .root) := by
  rw [lostByLeaving_eq]
  exact List.filter_sublist.trans (leaving.underSkipping_sublist _ .root)

section Lost

variable (tree : leaving.IsTree) (others : (merge rest).IsTree)

include tree

theorem nodup_lostByLeaving : (lostByLeaving rest leaving).Nodup := by
  rw [lostByLeaving_eq]
  exact (tree.nodup_underSkipping rfl).filter _

include others

theorem mem_lostByLeaving_iff : path ∈ lostByLeaving rest leaving ↔
    leaving.lists path = true ∧ (merge rest).lists path = false ∧
      (merge rest).lists path.parent = true := by
  rw [lostByLeaving_eq, List.mem_filter, tree.mem_underSkipping_iff rfl, Bool.not_eq_true']
  constructor
  · intro given
    rcases given with ⟨meets, unlisted⟩
    have notRoot := ne_root_of_unlisted unlisted
    have lower := Path.liesUnder_parent (tree.isPrim path meets.listed) notRoot
    have different : path.parent ≠ path := by
      intro same
      have outside := Path.not_parent_liesUnder path
      rw [same, tree.liesUnder_self meets.listed] at outside
      cases outside
    have kept := meets.kept path.parent lower (tree.meets_parent meets notRoot).2.under different
    exact ⟨meets.listed, unlisted, by simpa using kept⟩
  · intro given
    rcases given with ⟨listed, unlisted, parentListed⟩
    have isPrim := tree.isPrim path listed
    have under := Path.liesUnder_root_iff.mpr (Path.ne_empty_of_isPrim isPrim)
    refine ⟨⟨listed, under, ?_⟩, unlisted⟩
    -- all that is above the path is listed, and none of it is skipped
    intro above under _ different
    rcases (Path.liesUnder_iff_parent isPrim (ne_root_of_unlisted unlisted)).mp under with
      same | parentUnder
    · exact absurd same different
    · rw [others.lists_of_liesUnder parentListed parentUnder]
      rfl

theorem not_lists_of_liesUnder_lost {top : Path} (lost : top ∈ lostByLeaving rest leaving)
    (under : path.liesUnder top = true) : (merge rest).lists path = false := by
  apply Bool.eq_false_iff.mpr
  intro listed
  have topUnlisted := ((mem_lostByLeaving_iff tree others).mp lost).2.1
  rw [others.lists_of_liesUnder listed under] at topUnlisted
  cases topUnlisted

theorem eq_of_liesUnder_lost {first second : Path} (firstLost : first ∈ lostByLeaving rest leaving)
    (secondLost : second ∈ lostByLeaving rest leaving) (under : first.liesUnder second = true) :
    first = second := by
  rcases (mem_lostByLeaving_iff tree others).mp firstLost with ⟨listed, unlisted, parentListed⟩
  have notRoot := ne_root_of_unlisted unlisted
  rcases (Path.liesUnder_iff_parent (tree.isPrim first listed) notRoot).mp under with
    same | parentUnder
  · exact same.symm
  · rw [not_lists_of_liesUnder_lost tree others secondLost parentUnder] at parentListed
    cases parentListed

theorem eq_of_liesUnder_both {first second : Path} (firstLost : first ∈ lostByLeaving rest leaving)
    (secondLost : second ∈ lostByLeaving rest leaving) (underFirst : path.liesUnder first = true)
    (underSecond : path.liesUnder second = true) : first = second := by
  rcases Path.liesUnder_or_liesUnder underFirst underSecond with under | above
  · exact eq_of_liesUnder_lost tree others firstLost secondLost under
  · exact (eq_of_liesUnder_lost tree others secondLost firstLost above).symm

theorem exists_mem_lostByLeaving {path : Path} (listed : leaving.lists path = true)
    (unlisted : (merge rest).lists path = false) :
    ∃ top ∈ lostByLeaving rest leaving, path.liesUnder top = true := by
  have notRoot := ne_root_of_unlisted unlisted
  have isPrim := tree.isPrim path listed
  have above := tree.parent_listed path listed notRoot
  cases parentListed : (merge rest).lists path.parent with
  | false =>
      rcases exists_mem_lostByLeaving above parentListed with ⟨top, lost, under⟩
      exact ⟨top, lost, (Path.liesUnder_iff_parent isPrim notRoot).mpr (.inr under)⟩
  | true =>
      have lost := (mem_lostByLeaving_iff tree others).mpr ⟨listed, unlisted, parentListed⟩
      exact ⟨path, lost, tree.liesUnder_self listed⟩
termination_by path.height
decreasing_by
  exact Path.height_parent_lt (Path.isEmpty_eq_false.mpr (Path.ne_empty_of_isPrim isPrim))

end Lost

theorem replay_lostByLeaving (trees : AreTrees rest) (tree : table.IsTree)
    (others : ∀ scene ∈ all, scene = table.scene ∨ scene ∈ rest) (path : Path) :
    (merge all).types.replay (.removed (lostByLeaving rest table.scene)) path =
      if (merge rest).lists path then (merge all).types path else (merge rest).types path := by
  rw [TypeMap.replay, TypeMap.foldl_forget]
  cases listed : (merge rest).lists path with
  | true =>
      rw [if_pos rfl, if_neg]
      rintro ⟨top, lost, isAbove⟩
      have unlisted : (merge rest).lists path = false := by
        rcases isAbove with rfl | under
        · exact ((mem_lostByLeaving_iff tree.scene_isTree trees.isTree).mp lost).2.1
        · exact not_lists_of_liesUnder_lost tree.scene_isTree trees.isTree lost under
      rw [unlisted] at listed
      cases listed
  | false =>
      have nothing : (merge rest).types path = "" :=
        types_merge_of_empty fun _ member => trees.types_of_not_lists_merge listed member
      rw [if_neg Bool.false_ne_true, nothing]
      split
      · rfl
      · rename_i notLost
        apply types_merge_of_empty
        intro scene member
        rcases others scene member with rfl | isOther
        · have absent : table.contains path = false := by
            apply Bool.eq_false_iff.mpr
            intro stored
            rcases exists_mem_lostByLeaving tree.scene_isTree trees.isTree
              (tree.lists_iff.mpr stored) listed with ⟨top, lost, under⟩
            exact notLost ⟨top, lost, Or.inr under⟩
          exact types_of_blank (PrimTable.prim_of_absent absent)
        · exact trees.types_of_not_lists_merge listed isOther

end LayeredScene.Scene
