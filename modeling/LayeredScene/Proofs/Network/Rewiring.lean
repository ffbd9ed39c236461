import LayeredScene.Proofs.Network.StoredPrims
import Mathlib.Data.Finset.Card

/-! # Rewiring a merging index

An index at the bottom can join those that a merging index merges, or leave them. The network keeps
its layers, with other ranks if need be, and all who observe another index still do.
-/

namespace LayeredScene

namespace Observers

variable {α : Type} [DecidableEq α] {observers : Observers α} {lives : α → Bool} {observer : α}

theorem mem_add : observer ∈ (observers.add lives observer).registered := by
  rw [add]
  split
  · rename_i member
    exact List.contains_iff_mem.mp member
  · exact List.mem_append_right _ (List.mem_singleton_self observer)

theorem mem_of_mem_remove {other : α}
    (member : other ∈ (observers.remove lives observer).registered) :
    other ∈ observers.registered ∧ other ≠ observer := by
  rw [remove, List.mem_filter] at member
  exact ⟨(List.mem_filter.mp member.1).1, of_decide_eq_true member.2⟩

theorem nodup_remove (once : observers.registered.Nodup) :
    (observers.remove lives observer).registered.Nodup :=
  (once.filter _).filter _

end Observers

namespace Network

variable {network before after : Network} {rank : Nat → Nat} {number input : Nat}
variable {inputs former current : List Nat} {table : PrimTable}

/-! ## Ranks -/

def countBelow (network : Network) (rank : Nat → Nat) (number : Nat) : Nat :=
  ((Finset.range network.levels).filter fun other => rank other < rank number).card

theorem countBelow_lt_levels (inside : number < network.levels) :
    network.countBelow rank number < network.levels := by
  have fewer : (Finset.range network.levels).filter (fun other => rank other < rank number) ⊂
      Finset.range network.levels := by
    rw [Finset.filter_ssubset]
    exact ⟨number, Finset.mem_range.mpr inside, Nat.lt_irrefl _⟩
  exact (Finset.card_lt_card fewer).trans_eq (Finset.card_range _)

theorem countBelow_lt_countBelow {lower other : Nat} (inside : other < network.levels)
    (atLeast : rank lower ≤ rank other) (less : rank other < rank number) :
    network.countBelow rank lower < network.countBelow rank number := by
  apply Finset.card_lt_card
  rw [Finset.ssubset_iff_of_subset]
  · refine ⟨other, ?_, ?_⟩
    · simp [inside, less]
    · simp [atLeast]
  · intro third member
    rw [Finset.mem_filter] at member ⊢
    exact ⟨member.1, Nat.lt_of_lt_of_le member.2 (Nat.le_trans atLeast less.le)⟩

def ranksAbove (network : Network) (rank : Nat → Nat) (lowest number : Nat) : Nat :=
  if number = lowest ∨ network.levels ≤ number then 0 else rank number + 1

theorem Layered.exists_rank_lt (layered : network.Layered rank)
    (bottom : (network.node input).index.inputs = []) (inputInside : input < network.levels)
    (inside : number < network.levels) (different : number ≠ input) :
    ∃ other, network.Layered other ∧ other input < other number := by
  have lowest : network.ranksAbove rank input input = 0 := if_pos (Or.inl rfl)
  have higher : ∀ other < network.levels, other ≠ input →
      network.ranksAbove rank input other = rank other + 1 := fun other there apart =>
    if_neg (not_or.mpr ⟨apart, Nat.not_le_of_lt there⟩)
  have rises : ∀ other, ∀ below ∈ (network.node other).index.inputs,
      network.countBelow (network.ranksAbove rank input) below <
        network.countBelow (network.ranksAbove rank input) other := by
    intro other below member
    have there := inside_of_input member
    have apart : other ≠ input := by
      intro same
      rw [same, bottom] at member
      cases member
    have less := layered.rank_input other below member
    -- between the index and one that is not there or lowest, there is the lowest one to count
    by_cases isLow : below = input ∨ network.levels ≤ below
    · apply countBelow_lt_countBelow inputInside
      · rw [ranksAbove, if_pos isLow]
        exact Nat.zero_le _
      · rw [lowest, higher other there apart]
        exact Nat.succ_pos _
    · have belowInside := Nat.lt_of_not_le (not_or.mp isLow).2
      apply countBelow_lt_countBelow belowInside (Nat.le_refl _)
      rw [higher below belowInside (not_or.mp isLow).1, higher other there apart]
      omega
  have isHigher : network.countBelow (network.ranksAbove rank input) input <
      network.countBelow (network.ranksAbove rank input) number := by
    apply countBelow_lt_countBelow inputInside (Nat.le_refl _)
    rw [lowest, higher number inside different]
    exact Nat.succ_pos _
  exact ⟨_, ⟨fun _ => countBelow_lt_levels, rises, layered.observes_input, layered.once⟩, isHigher⟩

/-! ## Changing what an index merges -/

theorem index_unobserve (inside : number < network.levels) (observer : Observer) (other : Nat) :
    ((network.unobserve number observer).node other).index = (network.node other).index := by
  rw [unobserve, node_changeNode _ _ _ inside]
  split
  · rename_i isChanged
    rw [isChanged]
  · rfl

theorem observers_unobserve (inside : number < network.levels) (observer : Observer)
    (other : Nat) :
    ((network.unobserve number observer).node other).observers =
      if other = number then (network.node number).observers.remove network.lives observer
      else (network.node other).observers := by
  rw [unobserve, node_changeNode _ _ _ inside]
  split <;> rfl

/-- An index merges other indices than before, all but one of them the same, and the observers of
that one may have changed. It is one at the bottom. Nobody has been told yet. -/
structure Rewired (before after : Network) (number input : Nat) (former current : List Nat) :
    Prop where
  levels : after.levels = before.levels
  formerIndex : (before.node number).index = .merging former
  index : (after.node number).index = .merging current
  kept : ∀ other ≠ number, (after.node other).index = (before.node other).index
  others : ∀ other ≠ input, other ∈ current ↔ other ∈ former
  observers : ∀ other ≠ input, (after.node other).observers = (before.node other).observers
  bottom : (before.node input).index.inputs = []
  apart : input ≠ number
  handles : after.handles = before.handles
  listeners : after.listeners = before.listeners
  held : after.held = before.held
  unheard : after.heard = before.heard

namespace Rewired

theorem stores (rewired : before.Rewired after number input former current) {other : Nat}
    {table : PrimTable} (stores : before.Stores other table) : after.Stores other table where
  inside := Nat.lt_of_lt_of_eq stores.inside rewired.levels.symm
  index := by
    rw [rewired.kept other (stores.ne_of_merging rewired.formerIndex)]
    exact stores.index

theorem mem_inputs (rewired : before.Rewired after number input former current) {other below : Nat}
    (member : below ∈ (before.node other).index.inputs) :
    below = input ∨ below ∈ (after.node other).index.inputs := by
  by_cases isInput : below = input
  · exact Or.inl isInput
  · right
    by_cases isNumber : other = number
    · rw [isNumber, rewired.formerIndex] at member
      rw [isNumber, rewired.index]
      exact (rewired.others below isInput).mpr member
    · rw [rewired.kept other isNumber]
      exact member

theorem mem_standingOn (rewired : before.Rewired after number input former current) {levels : Nat}
    {numbers others : List Nat} (kept : ∀ other ∈ numbers, other = input ∨ other ∈ others)
    {below : Nat} (member : below ∈ before.standingOn levels numbers) :
    below = input ∨ below ∈ after.standingOn levels others := by
  induction levels generalizing numbers others with
  | zero => exact kept below member
  | succ levels induction =>
      rcases List.mem_append.mp member with here | lower
      · exact (kept below here).imp_right (List.mem_append_left _)
      · apply (induction _ lower).imp_right (List.mem_append_right _)
        intro other isInput
        rcases List.mem_flatMap.mp isInput with ⟨owner, isOwner, isInput⟩
        rcases kept owner isOwner with rfl | stillOwner
        · -- the one that joins or leaves stands on nothing, so nothing is reached through it
          rw [rewired.bottom] at isInput
          cases isInput
        · exact (rewired.mem_inputs isInput).imp_right fun stillInput =>
            List.mem_flatMap.mpr ⟨owner, stillOwner, stillInput⟩

theorem lives (rewired : before.Rewired after number input former current) {observer : Observer}
    (different : observer ≠ .index input) (live : before.lives observer = true) :
    after.lives observer = true := by
  cases observer with
  | listener other =>
      rw [Network.lives] at live ⊢
      rw [rewired.listeners]
      exact live
  | index other =>
      rw [Network.lives, present, List.contains_iff_mem] at live ⊢
      rw [rewired.levels, rewired.handles, rewired.held]
      rcases rewired.mem_standingOn (fun _ => Or.inr) live with rfl | still
      · exact absurd rfl different
      · exact still

theorem liveObservers (rewired : before.Rewired after number input former current) {other : Nat}
    {observer : Observer} (elsewhere : other ≠ input) (different : observer ≠ .index input)
    (observes : observer ∈ before.liveObservers other) : observer ∈ after.liveObservers other := by
  have parts := List.mem_filter.mp observes
  apply List.mem_filter.mpr
  rw [rewired.observers other elsewhere]
  exact ⟨parts.1, rewired.lives different parts.2⟩

end Rewired

/-! ## Joining -/

theorem levels_mergingAlso (index : (network.node number).index = .merging inputs) (input : Nat) :
    (mergingAlso number network input).levels = network.levels := by
  rw [mergingAlso_of_merging index]
  exact (levels_changeNode _ _ _).trans (levels_changeNode _ _ _)

theorem index_mergingAlso (index : (network.node number).index = .merging inputs)
    (inside : input < network.levels) (other : Nat) :
    ((mergingAlso number network input).node other).index =
      if other = number then .merging (inputs ++ [input]) else (network.node other).index := by
  have stillInside : number < (network.observe input (.index number)).levels :=
    Nat.lt_of_lt_of_eq (inside_of_merging index) (levels_changeNode _ _ _).symm
  rw [mergingAlso_of_merging index, index_setIndex stillInside, index_observe inside]

theorem observers_mergingAlso (index : (network.node number).index = .merging inputs)
    (inside : input < network.levels) (other : Nat) :
    ((mergingAlso number network input).node other).observers =
      if other = input then (network.node input).observers.add network.lives (.index number)
      else (network.node other).observers := by
  have stillInside : number < (network.observe input (.index number)).levels :=
    Nat.lt_of_lt_of_eq (inside_of_merging index) (levels_changeNode _ _ _).symm
  rw [mergingAlso_of_merging index, observers_setIndex stillInside, observers_observe inside]

theorem Stores.rewired_mergingAlso (stores : network.Stores input table)
    (index : (network.node number).index = .merging inputs) :
    network.Rewired (mergingAlso number network input) number input inputs (inputs ++ [input]) := by
  constructor
  case levels => exact levels_mergingAlso index input
  case formerIndex => exact index
  case index => rw [index_mergingAlso index stores.inside, if_pos rfl]
  case kept =>
    intro other different
    rw [index_mergingAlso index stores.inside, if_neg different]
  case others =>
    intro other different
    simp [different]
  case observers =>
    intro other different
    rw [observers_mergingAlso index stores.inside, if_neg different]
  case bottom =>
    rw [stores.index]
    rfl
  case apart => exact stores.ne_of_merging index
  all_goals
    rw [mergingAlso_of_merging index]
    rfl

theorem Layered.mergingAlso (layered : network.Layered rank) (stores : network.Stores input table)
    (index : (network.node number).index = .merging inputs) :
    ∃ other, (mergingAlso number network input).Layered other := by
  have rewired := stores.rewired_mergingAlso index
  have inside := inside_of_merging index
  rcases layered.exists_rank_lt rewired.bottom stores.inside inside rewired.apart.symm with
    ⟨other, otherLayered, less⟩
  rw [mergingAlso_of_merging index]
  exact ⟨other, otherLayered.observe_setIndex index inside stores.inside less⟩

theorem mem_liveObservers_mergingAlso (stores : network.Stores input table)
    (index : (network.node number).index = .merging inputs)
    (present : network.lives (.index number) = true) :
    .index number ∈ (mergingAlso number network input).liveObservers input := by
  have rewired := stores.rewired_mergingAlso index
  apply List.mem_filter.mpr
  constructor
  · rw [observers_mergingAlso index stores.inside, if_pos rfl]
    exact Observers.mem_add
  · apply rewired.lives _ present
    intro same
    exact rewired.apart (Observer.index.inj same).symm

/-! ## Leaving -/

def mergingWithout (number : Nat) (network : Network) (input : Nat) : Network :=
  match (network.node number).index with
  | .merging present =>
      (network.setIndex number (.merging (present.erase input))).unobserve input (.index number)
  | _ => network

theorem mergingWithout_of_merging (index : (network.node number).index = .merging inputs)
    (input : Nat) :
    mergingWithout number network input =
      (network.setIndex number (.merging (inputs.erase input))).unobserve input
        (.index number) := by
  rw [mergingWithout, index]

theorem levels_mergingWithout (index : (network.node number).index = .merging inputs)
    (input : Nat) : (mergingWithout number network input).levels = network.levels := by
  rw [mergingWithout_of_merging index]
  exact (levels_changeNode _ _ _).trans (levels_changeNode _ _ _)

theorem index_mergingWithout (index : (network.node number).index = .merging inputs)
    (inside : input < network.levels) (other : Nat) :
    ((mergingWithout number network input).node other).index =
      if other = number then .merging (inputs.erase input) else (network.node other).index := by
  have stillInside : input < (network.setIndex number (.merging (inputs.erase input))).levels :=
    Nat.lt_of_lt_of_eq inside (levels_changeNode _ _ _).symm
  rw [mergingWithout_of_merging index, index_unobserve stillInside,
    index_setIndex (inside_of_merging index)]

theorem observers_mergingWithout (index : (network.node number).index = .merging inputs)
    (inside : input < network.levels) (other : Nat) :
    ((mergingWithout number network input).node other).observers =
      if other = input then (network.node input).observers.remove
        (network.setIndex number (.merging (inputs.erase input))).lives (.index number)
      else (network.node other).observers := by
  have stillInside : input < (network.setIndex number (.merging (inputs.erase input))).levels :=
    Nat.lt_of_lt_of_eq inside (levels_changeNode _ _ _).symm
  rw [mergingWithout_of_merging index, observers_unobserve stillInside,
    observers_setIndex (inside_of_merging index), observers_setIndex (inside_of_merging index)]

theorem Stores.rewired_mergingWithout (stores : network.Stores input table)
    (index : (network.node number).index = .merging inputs) :
    network.Rewired (mergingWithout number network input) number input inputs
      (inputs.erase input) := by
  constructor
  case levels => exact levels_mergingWithout index input
  case formerIndex => exact index
  case index => rw [index_mergingWithout index stores.inside, if_pos rfl]
  case kept =>
    intro other different
    rw [index_mergingWithout index stores.inside, if_neg different]
  case others =>
    intro other different
    exact List.mem_erase_of_ne different
  case observers =>
    intro other different
    rw [observers_mergingWithout index stores.inside, if_neg different]
  case bottom =>
    rw [stores.index]
    rfl
  case apart => exact stores.ne_of_merging index
  all_goals
    rw [mergingWithout_of_merging index]
    rfl

theorem Layered.mergingWithout (layered : network.Layered rank)
    (index : (network.node number).index = .merging inputs) (inputInside : input < network.levels) :
    (mergingWithout number network input).Layered rank := by
  constructor
  case rank_lt =>
    rw [levels_mergingWithout index]
    exact layered.rank_lt
  case rank_input =>
    intro other below member
    rw [index_mergingWithout index inputInside] at member
    apply layered.rank_input
    split at member
    · rename_i isChanged
      rw [isChanged, index]
      exact List.mem_of_mem_erase member
    · exact member
  case observes_input =>
    intro other below observes
    have observed : .index other ∈ (network.node below).observers.registered ∧
        (below = input → other ≠ number) := by
      rw [observers_mergingWithout index inputInside] at observes
      split at observes
      · rename_i isInput
        have parts := Observers.mem_of_mem_remove observes
        rw [isInput]
        exact ⟨parts.1, fun _ isNumber => parts.2 (congrArg _ isNumber)⟩
      · rename_i elsewhere
        exact ⟨observes, fun isInput => absurd isInput elsewhere⟩
    have stands := layered.observes_input other below observed.1
    rw [index_mergingWithout index inputInside]
    split
    · rename_i isNumber
      rw [isNumber, index] at stands
      exact (List.mem_erase_of_ne fun isInput => observed.2 isInput isNumber).mpr stands
    · exact stands
  case once =>
    intro other
    rw [observers_mergingWithout index inputInside]
    split
    · exact Observers.nodup_remove (layered.once input)
    · exact layered.once other

end Network

end LayeredScene
