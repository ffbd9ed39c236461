import LayeredScene.Path.Order
import LayeredScene.Scene.Prim
import Mathlib.Data.List.Flatten
import Mathlib.Data.List.Nodup

/-! # Going down a scene

Where the children that a scene lists form a tree of prim paths, whoever goes down from a path meets
what is listed at and below it, each path once and none before the one above it. What lies below a
skipped path is not met. The height of the scene is enough levels for that, so that what is met is a
path and then what is met below its children, one after the other.
-/

namespace LayeredScene.Scene

variable {scene : Scene} {skips : Path → Bool} {path top owner child : Path} {levels : Nat}

theorem le_foldl_max {α : Type} (number : α → Nat) (items : List α) (most : Nat) :
    most ≤ items.foldl (fun most item => max most (number item)) most ∧
      ∀ item ∈ items, number item ≤ items.foldl (fun most item => max most (number item)) most := by
  induction items generalizing most with
  | nil => simp
  | cons first rest induction =>
      have bounds := induction (max most (number first))
      refine ⟨Nat.le_trans (Nat.le_max_left _ _) bounds.1, ?_⟩
      intro item member
      rcases List.mem_cons.mp member with rfl | member
      · exact Nat.le_trans (Nat.le_max_right _ _) bounds.1
      · exact bounds.2 item member

theorem descend_sublist (children : Path → List Path) (skips : Path → Bool) (levels : Nat)
    (top : Path) :
    (descend children skips levels top).Sublist (descend children (fun _ => false) levels top) := by
  induction levels generalizing top with
  | zero => exact List.Sublist.refl _
  | succ levels induction =>
      rw [descend, descend, if_neg Bool.false_ne_true]
      apply List.Sublist.cons_cons
      split
      · exact List.nil_sublist _
      · exact List.Sublist.flatMap_right _ fun child _ => induction child

theorem underSkipping_sublist (scene : Scene) (skips : Path → Bool) (top : Path) :
    (scene.underSkipping skips top).Sublist (scene.under top) :=
  descend_sublist scene.children skips scene.height top

/-- The listed paths are prim paths, the one above each is listed too and has it among its children
once, and none of them has more elements than the scene has levels. -/
structure IsTree (scene : Scene) : Prop where
  isPrim : ∀ path, scene.lists path = true → path.isPrim = true
  parent_listed : ∀ path, scene.lists path = true → path ≠ .root →
    scene.lists path.parent = true
  child_ne_root : ∀ owner child, child ∈ scene.children owner → child ≠ .root
  child_parent : ∀ owner child, child ∈ scene.children owner → child.parent = owner
  nodup_children : ∀ owner, (scene.children owner).Nodup
  elementCount_le_height : ∀ path, scene.lists path = true → path.elementCount ≤ scene.height

theorem ne_root_of_unlisted (unlisted : scene.lists path = false) : path ≠ .root := by
  rintro rfl
  cases unlisted

theorem lists_of_ne_root (notRoot : path ≠ .root) :
    scene.lists path = true ↔ path ∈ scene.children path.parent := by
  rw [lists, Path.isRoot_eq_false.mpr notRoot, Bool.false_or, hasChild, List.contains_iff_mem]

/-- A path is listed at or below another, and nothing is skipped on the way down to it. -/
structure Meets (scene : Scene) (skips : Path → Bool) (top path : Path) : Prop where
  listed : scene.lists path = true
  under : path.liesUnder top = true
  kept : ∀ above, path.liesUnder above = true → above.liesUnder top = true → above ≠ path →
    skips above = false

namespace IsTree

theorem child_listed (tree : scene.IsTree) (member : child ∈ scene.children owner) :
    scene.lists child = true := by
  rw [lists_of_ne_root (tree.child_ne_root owner child member), tree.child_parent owner child member]
  exact member

theorem child_isPrim (tree : scene.IsTree) (member : child ∈ scene.children owner) :
    child.isPrim = true :=
  tree.isPrim child (tree.child_listed member)

theorem child_liesUnder (tree : scene.IsTree) (member : child ∈ scene.children owner) :
    child.liesUnder owner = true := by
  rw [← tree.child_parent owner child member]
  exact Path.liesUnder_parent (tree.child_isPrim member) (tree.child_ne_root owner child member)

theorem elementCount_child (tree : scene.IsTree) (member : child ∈ scene.children owner) :
    child.elementCount = owner.elementCount + 1 := by
  rw [← tree.child_parent owner child member]
  exact Path.elementCount_eq_of_parent (tree.child_isPrim member)
    (tree.child_ne_root owner child member)

theorem liesUnder_self (tree : scene.IsTree) (listed : scene.lists path = true) :
    path.liesUnder path = true :=
  Path.liesUnder_self (Path.ne_empty_of_isPrim (tree.isPrim path listed))

theorem not_liesUnder_child (tree : scene.IsTree) (member : child ∈ scene.children owner) :
    owner.liesUnder child = false := by
  rw [← tree.child_parent owner child member]
  exact Path.not_parent_liesUnder child

theorem eq_of_liesUnder_children (tree : scene.IsTree) {first second : Path}
    (firstMember : first ∈ scene.children owner) (secondMember : second ∈ scene.children owner)
    (underFirst : path.liesUnder first = true) (underSecond : path.liesUnder second = true) :
    first = second := by
  apply Path.eq_of_liesUnder_siblings (tree.child_isPrim firstMember)
    (tree.child_isPrim secondMember) (tree.child_ne_root owner first firstMember)
    (tree.child_ne_root owner second secondMember) ?_ underFirst underSecond
  rw [tree.child_parent owner first firstMember, tree.child_parent owner second secondMember]

theorem lists_of_liesUnder (tree : scene.IsTree) (listed : scene.lists path = true)
    (under : path.liesUnder owner = true) : scene.lists owner = true :=
  Path.of_liesUnder tree.isPrim tree.parent_listed listed under

theorem exists_child (tree : scene.IsTree) {path : Path} (listed : scene.lists path = true)
    (under : path.liesUnder top = true) (below : path ≠ top) :
    ∃ child ∈ scene.children top, path.liesUnder child = true := by
  have notRoot : path ≠ .root := by
    intro same
    subst same
    exact below (Path.root_liesUnder_iff.mp under).symm
  rcases (Path.liesUnder_iff_parent (tree.isPrim path listed) notRoot).mp under with
    same | parentUnder
  · exact absurd same.symm below
  · have isChild := (lists_of_ne_root notRoot).mp listed
    by_cases isParent : path.parent = top
    · subst top
      exact ⟨path, isChild, tree.liesUnder_self listed⟩
    · have parentListed := tree.parent_listed path listed notRoot
      rcases tree.exists_child parentListed parentUnder isParent with ⟨child, member, lower⟩
      exact ⟨child, member, Path.liesUnder_trans (tree.child_liesUnder isChild) lower⟩
termination_by path.height
decreasing_by
  exact Path.height_parent_lt
    (Path.isEmpty_eq_false.mpr (Path.ne_empty_of_isPrim (tree.isPrim path listed)))

/-! ## Enough levels -/

theorem children_eq_nil (tree : scene.IsTree) (enough : scene.height ≤ owner.elementCount) :
    scene.children owner = [] := by
  apply List.eq_nil_iff_forall_not_mem.mpr
  intro child member
  have count := tree.elementCount_child member
  have bound := tree.elementCount_le_height child (tree.child_listed member)
  omega

theorem descend_succ (tree : scene.IsTree) (enough : scene.height ≤ top.elementCount + levels) :
    descend scene.children skips (levels + 1) top = descend scene.children skips levels top := by
  induction levels generalizing top with
  | zero => simp [descend, tree.children_eq_nil enough]
  | succ levels induction =>
      rw [descend, descend]
      congr 2
      apply List.flatMap_congr
      intro child member
      apply induction
      rw [tree.elementCount_child member]
      omega

theorem underSkipping_eq (tree : scene.IsTree) (skips : Path → Bool) (top : Path) :
    scene.underSkipping skips top =
      top :: if skips top then []
        else (scene.children top).flatMap (scene.underSkipping skips) := by
  have enough : scene.height ≤ top.elementCount + scene.height := Nat.le_add_left _ _
  calc
    scene.underSkipping skips top
        = descend scene.children skips (scene.height + 1) top := (tree.descend_succ enough).symm
    _ = top :: if skips top then []
          else (scene.children top).flatMap (scene.underSkipping skips) := rfl

/-! ## What is met -/

theorem meets_self (tree : scene.IsTree) (listed : scene.lists top = true) :
    scene.Meets skips top top where
  listed := listed
  under := tree.liesUnder_self listed
  kept _ under upper different := absurd (Path.eq_of_liesUnder upper under) different

theorem meets_of_child (tree : scene.IsTree) (member : child ∈ scene.children top)
    (isKept : skips top = false) (meets : scene.Meets skips child path) :
    scene.Meets skips top path where
  listed := meets.listed
  under := Path.liesUnder_trans meets.under (tree.child_liesUnder member)
  kept above under upper different := by
    rcases Path.liesUnder_or_liesUnder under meets.under with lower | higher
    · exact meets.kept above under lower different
    · -- between the child and its owner there is nothing else
      rcases (Path.liesUnder_iff_parent (tree.child_isPrim member)
        (tree.child_ne_root top child member)).mp higher with same | ownerUnder
      · rw [same] at under different ⊢
        exact meets.kept child under (tree.liesUnder_self (tree.child_listed member)) different
      · rw [tree.child_parent top child member] at ownerUnder
        rw [Path.eq_of_liesUnder upper ownerUnder]
        exact isKept

theorem of_mem_descend (tree : scene.IsTree) (listed : scene.lists top = true)
    (met : path ∈ descend scene.children skips levels top) : scene.Meets skips top path := by
  induction levels generalizing top with
  | zero =>
      rw [List.mem_singleton.mp met]
      exact tree.meets_self listed
  | succ levels induction =>
      rcases List.mem_cons.mp met with rfl | met
      · exact tree.meets_self listed
      · cases isSkipped : skips top with
        | true => simp [isSkipped] at met
        | false =>
            rw [isSkipped, if_neg Bool.false_ne_true] at met
            rcases List.mem_flatMap.mp met with ⟨child, member, met⟩
            exact tree.meets_of_child member isSkipped (induction (tree.child_listed member) met)

theorem mem_descend (tree : scene.IsTree) (meets : scene.Meets skips top path)
    (enough : path.elementCount ≤ top.elementCount + levels) :
    path ∈ descend scene.children skips levels top := by
  induction levels generalizing top with
  | zero =>
      by_cases isTop : path = top
      · rw [isTop]
        exact List.mem_cons_self
      · rcases tree.exists_child meets.listed meets.under isTop with ⟨child, member, lower⟩
        have count := tree.elementCount_child member
        have fewer := Path.elementCount_le_of_liesUnder lower
        omega
  | succ levels induction =>
      by_cases isTop : path = top
      · rw [isTop]
        exact List.mem_cons_self
      · rcases tree.exists_child meets.listed meets.under isTop with ⟨child, member, lower⟩
        have topListed := tree.lists_of_liesUnder meets.listed meets.under
        have isKept := meets.kept top meets.under (tree.liesUnder_self topListed) (Ne.symm isTop)
        have childMeets : scene.Meets skips child path := ⟨meets.listed, lower,
          fun above under upper different => meets.kept above under
            (Path.liesUnder_trans upper (tree.child_liesUnder member)) different⟩
        have count := tree.elementCount_child member
        apply List.mem_cons_of_mem
        rw [isKept, if_neg Bool.false_ne_true]
        exact List.mem_flatMap.mpr ⟨child, member, induction childMeets (by omega)⟩

theorem mem_underSkipping_iff (tree : scene.IsTree) (listed : scene.lists top = true) :
    path ∈ scene.underSkipping skips top ↔ scene.Meets skips top path := by
  constructor
  · exact tree.of_mem_descend listed
  · intro meets
    have bound := tree.elementCount_le_height path meets.listed
    exact tree.mem_descend meets (Nat.le_trans bound (Nat.le_add_left _ _))

theorem mem_under_iff (tree : scene.IsTree) (listed : scene.lists top = true) :
    path ∈ scene.under top ↔ scene.lists path = true ∧ path.liesUnder top = true := by
  rw [under, ← underSkipping, tree.mem_underSkipping_iff listed]
  constructor
  · exact fun meets => ⟨meets.listed, meets.under⟩
  · exact fun given => ⟨given.1, given.2, fun _ _ _ _ => rfl⟩

/-! ## The order of what is met -/

theorem pairwise_descend (tree : scene.IsTree) (listed : scene.lists top = true) :
    (descend scene.children skips levels top).Pairwise fun earlier later =>
      earlier.liesUnder later = false := by
  induction levels generalizing top with
  | zero => exact List.pairwise_singleton _ top
  | succ levels induction =>
      rw [descend]
      cases isSkipped : skips top with
      | true => exact List.pairwise_singleton _ top
      | false =>
          have below : ∀ child ∈ scene.children top,
              ∀ path ∈ descend scene.children skips levels child, path.liesUnder child = true :=
            fun child member path met => (tree.of_mem_descend (tree.child_listed member) met).under
          rw [if_neg Bool.false_ne_true]
          apply List.pairwise_cons.mpr ⟨?_, List.pairwise_flatMap.mpr ⟨?_, ?_⟩⟩
          · intro path met
            rcases List.mem_flatMap.mp met with ⟨child, member, met⟩
            apply Bool.eq_false_iff.mpr
            intro under
            have outside := tree.not_liesUnder_child member
            rw [Path.liesUnder_trans under (below child member path met)] at outside
            contradiction
          · intro child member
            exact induction (tree.child_listed member)
          · apply (tree.nodup_children top).imp_of_mem
            intro first second firstMember secondMember different path inFirst other inSecond
            apply Bool.eq_false_iff.mpr
            intro under
            exact different (tree.eq_of_liesUnder_children firstMember secondMember
              (below first firstMember path inFirst)
              (Path.liesUnder_trans under (below second secondMember other inSecond)))

theorem nodup_underSkipping (tree : scene.IsTree) (listed : scene.lists top = true) :
    (scene.underSkipping skips top).Nodup := by
  apply (tree.pairwise_descend listed).imp_of_mem
  intro earlier later member _ notUnder same
  have earlierListed := (tree.of_mem_descend listed member).listed
  rw [← same, tree.liesUnder_self earlierListed] at notUnder
  contradiction

theorem meets_parent (tree : scene.IsTree) (meets : scene.Meets skips top path)
    (below : path ≠ top) : path ≠ .root ∧ scene.Meets skips top path.parent := by
  have notRoot : path ≠ .root := by
    intro same
    have under := meets.under
    rw [same] at under below
    exact below (Path.root_liesUnder_iff.mp under).symm
  have isPrim := tree.isPrim path meets.listed
  rcases (Path.liesUnder_iff_parent isPrim notRoot).mp meets.under with same | parentUnder
  · exact absurd same.symm below
  · refine ⟨notRoot, tree.parent_listed path meets.listed notRoot, parentUnder, ?_⟩
    intro above under upper _
    apply meets.kept above ((Path.liesUnder_iff_parent isPrim notRoot).mpr (.inr under)) upper
    intro same
    rw [same, Path.not_parent_liesUnder] at under
    contradiction

theorem parent_mem_before (tree : scene.IsTree) (listed : scene.lists top = true)
    {before after : List Path} (split : scene.underSkipping skips top = before ++ path :: after)
    (below : path ≠ top) : path.parent ∈ before := by
  have ordered : (before ++ path :: after).Pairwise fun earlier later =>
      earlier.liesUnder later = false := by
    rw [← split]
    exact tree.pairwise_descend listed
  have met : path ∈ scene.underSkipping skips top := by
    rw [split]
    exact List.mem_append_right _ List.mem_cons_self
  rcases tree.meets_parent ((tree.mem_underSkipping_iff listed).mp met) below with
    ⟨notRoot, parentMeets⟩
  have parentMet := (tree.mem_underSkipping_iff listed).mpr parentMeets
  have isPrim := tree.isPrim path ((tree.mem_underSkipping_iff listed).mp met).listed
  have lower := Path.liesUnder_parent isPrim notRoot
  rw [split] at parentMet
  rcases List.mem_append.mp parentMet with isBefore | notBefore
  · exact isBefore
  · rcases List.mem_cons.mp notBefore with same | isAfter
    · have outside := Path.not_parent_liesUnder path
      rw [same] at outside lower
      rw [lower] at outside
      contradiction
    · have parts := List.pairwise_cons.mp (List.pairwise_append.mp ordered).2.1
      rw [parts.1 _ isAfter] at lower
      contradiction

end IsTree

end LayeredScene.Scene
