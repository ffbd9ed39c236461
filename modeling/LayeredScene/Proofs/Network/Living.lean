import LayeredScene.Proofs.Network.Rewiring

/-! # What is there still

An index is there as long as someone holds on to it, or to one that stands on it. It stays there as
indices are added, and as merging indices come to merge more. Those who are there stay on the lists
that they are on when others are added to a list or taken off it.
-/

namespace LayeredScene

namespace Observers

variable {α : Type} [DecidableEq α] {observers : Observers α} {lives : α → Bool}
variable {observer other : α}

theorem mem_add_iff (live : other ∈ observers.registered → lives other = true) :
    other ∈ (observers.add lives observer).registered ↔
      other ∈ observers.registered ∨ other = observer := by
  constructor
  · exact mem_or_eq_of_mem_add
  · intro given
    rcases given with old | rfl
    · have present : other ∈ observers.live lives := List.mem_filter.mpr ⟨old, live old⟩
      rw [add]
      split
      · exact present
      · exact List.mem_append_left _ present
    · exact mem_add

theorem mem_remove_iff (live : other ∈ observers.registered → lives other = true) :
    other ∈ (observers.remove lives observer).registered ↔
      other ∈ observers.registered ∧ other ≠ observer := by
  constructor
  · exact mem_of_mem_remove
  · intro given
    apply List.mem_filter.mpr
    exact ⟨List.mem_filter.mpr ⟨given.1, live given.1⟩, decide_eq_true given.2⟩

end Observers

namespace Network

variable {network before after : Network} {number input : Nat}

theorem standingOn_subset
    (inputs : ∀ number, (before.node number).index.inputs ⊆ (after.node number).index.inputs)
    {levels more : Nat} (enough : levels ≤ more) {numbers others : List Nat}
    (kept : numbers ⊆ others) :
    before.standingOn levels numbers ⊆ after.standingOn more others := by
  induction levels generalizing more numbers others with
  | zero =>
      intro other member
      cases more with
      | zero => exact kept member
      | succ more => exact List.mem_append_left _ (kept member)
  | succ levels induction =>
      rcases Nat.exists_eq_succ_of_ne_zero (show more ≠ 0 by omega) with ⟨more, rfl⟩
      intro other member
      rcases List.mem_append.mp member with here | below
      · exact List.mem_append_left _ (kept here)
      · apply List.mem_append_right
        apply induction (Nat.le_of_succ_le_succ enough) _ below
        intro lower isInput
        rcases List.mem_flatMap.mp isInput with ⟨owner, isOwner, isInput⟩
        exact List.mem_flatMap.mpr ⟨owner, kept isOwner, inputs owner isInput⟩

theorem lives_of_subset (levels : before.levels ≤ after.levels)
    (inputs : ∀ number, (before.node number).index.inputs ⊆ (after.node number).index.inputs)
    (handles : before.handles ⊆ after.handles) (held : after.held = before.held)
    (live : before.lives (.index number) = true) : after.lives (.index number) = true := by
  rw [lives, present, List.contains_iff_mem] at live ⊢
  rw [held]
  apply standingOn_subset inputs levels _ live
  intro other member
  exact List.mem_append.mpr ((List.mem_append.mp member).imp_left (handles ·))

theorem lives_of_handle (held : number ∈ network.handles) :
    network.lives (.index number) = true := by
  rw [lives, present, List.contains_iff_mem]
  apply standingOn_subset (fun _ => List.Subset.refl _) (Nat.zero_le _) (List.Subset.refl _)
  exact List.mem_append_left _ held

theorem lives_addIndex (index : Index)
    (live : number < network.levels → network.lives (.index number) = true)
    (inside : number < (network.addIndex index).2.levels) :
    (network.addIndex index).2.lives (.index number) = true := by
  rw [levels_addIndex] at inside
  rcases Nat.lt_succ_iff_lt_or_eq.mp inside with old | isNew
  · apply lives_of_subset _ _ _ _ (live old)
    · rw [levels_addIndex]
      exact Nat.le_succ _
    · intro owner
      rw [node_addIndex]
      split
      · rename_i isNew
        rw [node_of_outside isNew.ge]
        exact List.nil_subset _
      · exact List.Subset.refl _
    · exact List.subset_append_left _ _
    · rfl
  · apply lives_of_handle
    rw [isNew]
    exact List.mem_append_right _ (List.mem_singleton_self _)

theorem lives_mergingAlso {other : Nat} {present : List Nat}
    (index : (network.node other).index = .merging present)
    (inside : input < network.levels) (live : network.lives (.index number) = true) :
    (mergingAlso other network input).lives (.index number) = true := by
  apply lives_of_subset _ _ _ _ live
  · rw [levels_mergingAlso index]
  · intro owner
    rw [index_mergingAlso index inside]
    split
    · rename_i isOther
      rw [isOther, index]
      exact List.subset_append_left _ _
    · exact List.Subset.refl _
  · rw [mergingAlso_of_merging index]
    exact List.Subset.refl _
  · rw [mergingAlso_of_merging index]
    rfl

end Network

end LayeredScene
