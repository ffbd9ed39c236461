import LayeredScene.Proofs.Network.InputCalls
import LayeredScene.Proofs.Network.Living
import LayeredScene.Proofs.Network.MergeInputs

/-! # Registration with what is merged

A merging index is told of changes by those that it is registered with. It registers with an index
that joins those that it merges, and takes itself off the list of one that leaves them. Registering
twice is registering once, but an index can be merged several times: when it leaves once it is still
merged, and no longer observed. Where no index is merged twice, the merging index is registered with
just those that it merges.
-/

namespace LayeredScene.Network

variable {network before after : Network} {number input : Nat} {calls new : List InputCall}

/-! ## Runs -/

structure SameRegistry (before after : Network) : Prop where
  levels : after.levels = before.levels
  observers : ∀ number, (after.node number).observers = (before.node number).observers
  merging : ∀ number inputs, (after.node number).index = .merging inputs ↔
    (before.node number).index = .merging inputs

theorem SameWiring.sameRegistry (same : before.SameWiring after) : before.SameRegistry after where
  levels := same.levels
  observers number := by rw [same.node]
  merging number inputs := by rw [same.node]

/-- What happens to a network, with the calls to merging indices that this is: indices are added,
merging indices are called, others come to observe, or something that touches none of this, such as
an edit. -/
inductive Rewires : Network → List InputCall → Network → Prop
  | added {network : Network} {index : Index} (notMerging : ∀ inputs, index ≠ .merging inputs) :
      Rewires network [] (network.addIndex index).2
  | merged {network : Network} {inputs : List Nat}
      (inside : ∀ input ∈ inputs, input < network.levels) :
      Rewires network (inputs.map (.join network.levels)) (network.addMerging inputs).2
  | joined {network : Network} {number input : Nat} {inputs : List Nat}
      (index : (network.node number).index = .merging inputs) (inside : input < network.levels) :
      Rewires network [.join number input] (network.join number input)
  | left {network : Network} {number input : Nat} {inputs : List Nat}
      (index : (network.node number).index = .merging inputs) (inside : input < network.levels) :
      Rewires network [.leave number input] (network.leave number input)
  | observed {network : Network} {number : Nat} {observer : Observer}
      (inside : number < network.levels)
      (notMerging : ∀ index, observer = .index index → index < network.levels ∧
        ∀ inputs, (network.node index).index ≠ .merging inputs) :
      Rewires network [] (network.observe number observer)
  | apart {before after : Network} (same : before.SameRegistry after) : Rewires before [] after

/-- The networks that come about from the empty one, with the calls to merging indices that led
there, while someone holds on to the index of a number from when it is added. -/
inductive MergingRun (number : Nat) : Network → List InputCall → Prop
  | start : MergingRun number .empty []
  | step {before after : Network} {calls new : List InputCall}
      (run : MergingRun number before calls)
      (rewires : before.Rewires new after)
      (held : number < after.levels → after.lives (.index number) = true) :
      MergingRun number after (calls ++ new)

/-! ## What each step preserves -/

def MayMerge (network : Network) (number : Nat) : Prop :=
  number < network.levels → ∃ inputs, (network.node number).index = .merging inputs

/-- After some calls, a merging index merges what they say, and it is registered with those indices
that the last call about them had join. -/
structure Heeds (number : Nat) (network : Network) (calls : List InputCall) : Prop where
  once : ∀ input, (network.node input).observers.registered.Nodup
  known : ∀ input, .index number ∈ (network.node input).observers.registered →
    number < network.levels
  merges : ∀ inputs, (network.node number).index = .merging inputs →
    inputs = InputCall.merged number calls
  uncalled : network.levels ≤ number → InputCall.merged number calls = []
  registered : network.MayMerge number → ∀ input,
    .index number ∈ (network.node input).observers.registered ↔
      InputCall.last? number input calls = some (.join number input)

theorem sameWiring_join {present : List Nat}
    (index : (network.node number).index = .merging present) (input : Nat) :
    (mergingAlso number network input).SameWiring (network.join number input) := by
  rw [mergingAlso_of_merging index]
  simp only [Network.join, index]
  split
  · exact sameWiring_send _ _ _
  · exact .refl _

theorem sameWiring_leave {present : List Nat}
    (index : (network.node number).index = .merging present) (member : input ∈ present) :
    (mergingWithout number network input).SameWiring (network.leave number input) := by
  rw [mergingWithout_of_merging index]
  simp only [Network.leave, index, List.contains_iff_mem.mpr member, if_true]
  split
  · exact sameWiring_send _ _ _
  · exact .refl _

theorem observers_addIndex (network : Network) (index : Index) (number : Nat) :
    ((network.addIndex index).2.node number).observers = (network.node number).observers := by
  rw [node_addIndex]
  split
  · rename_i isNew
    rw [node_of_outside isNew.ge]
    rfl
  · rfl

namespace Heeds

theorem empty : Heeds number .empty [] where
  once input := List.nodup_nil
  known input member := by cases member
  merges inputs index := by cases index
  uncalled _ := rfl
  registered _ input := by
    constructor
    · exact fun member => absurd member List.not_mem_nil
    · intro joined
      cases joined

theorem apart (heeds : Heeds number before calls) (same : before.SameRegistry after) :
    Heeds number after calls where
  once input := by
    rw [same.observers]
    exact heeds.once input
  known input := by
    rw [same.observers, same.levels]
    exact heeds.known input
  merges inputs index := heeds.merges inputs ((same.merging number inputs).mp index)
  uncalled := by
    rw [same.levels]
    exact heeds.uncalled
  registered mayMerge input := by
    rw [same.observers]
    apply heeds.registered
    intro inside
    rw [← same.levels] at inside
    exact (mayMerge inside).imp fun inputs => (same.merging number inputs).mp

theorem addIndex (heeds : Heeds number network calls) {index : Index}
    (blank : ∀ inputs, index = .merging inputs → inputs = []) :
    Heeds number (network.addIndex index).2 calls where
  once input := by
    rw [observers_addIndex]
    exact heeds.once input
  known input := by
    rw [observers_addIndex, levels_addIndex]
    exact fun member => Nat.lt_succ_of_lt (heeds.known input member)
  merges inputs isMerging := by
    rw [node_addIndex] at isMerging
    split at isMerging
    · rename_i isNew
      rw [heeds.uncalled isNew.ge]
      exact blank inputs isMerging
    · exact heeds.merges inputs isMerging
  uncalled outside := by
    rw [levels_addIndex] at outside
    exact heeds.uncalled (Nat.le_of_succ_le outside)
  registered mayMerge input := by
    rw [observers_addIndex]
    apply heeds.registered
    intro inside
    have stillInside : number < (network.addIndex index).2.levels := by
      rw [levels_addIndex]
      exact Nat.lt_succ_of_lt inside
    rcases mayMerge stillInside with ⟨inputs, isMerging⟩
    rw [node_addIndex, if_neg (Nat.ne_of_lt inside)] at isMerging
    exact ⟨inputs, isMerging⟩

theorem observe (heeds : Heeds number network calls) (inside : input < network.levels)
    {observer : Observer}
    (notMerging : ∀ index, observer = .index index → index < network.levels ∧
      ∀ inputs, (network.node index).index ≠ .merging inputs)
    (live : number < network.levels → network.lives (.index number) = true) :
    Heeds number (network.observe input observer) calls where
  once other := by
    rw [observers_observe inside]
    split
    · exact Observers.nodup_add (heeds.once input)
    · exact heeds.once other
  known other member := by
    rw [Network.observe, levels_changeNode]
    rw [observers_observe inside] at member
    split at member
    · rcases Observers.mem_or_eq_of_mem_add member with old | isNew
      · exact heeds.known input old
      · exact (notMerging number isNew.symm).1
    · exact heeds.known other member
  merges inputs index := by
    rw [index_observe inside] at index
    exact heeds.merges inputs index
  uncalled outside := by
    rw [Network.observe, levels_changeNode] at outside
    exact heeds.uncalled outside
  registered mayMerge other := by
    have mergedBefore : network.MayMerge number := by
      intro there
      rw [MayMerge, Network.observe, levels_changeNode, ← Network.observe] at mayMerge
      rw [index_observe inside] at mayMerge
      exact mayMerge there
    rw [← heeds.registered mergedBefore, observers_observe inside]
    split
    · rename_i isInput
      rw [Observers.mem_add_iff fun member => live (heeds.known input member), isInput]
      apply or_iff_left
      intro isObserver
      have given := notMerging number isObserver.symm
      rcases mergedBefore given.1 with ⟨inputs, index⟩
      exact given.2 inputs index
    · exact Iff.rfl

theorem called (heeds : Heeds number network calls) (call : InputCall) {present : List Nat}
    (index : (network.node call.number).index = .merging present)
    (levels : after.levels = network.levels)
    (indices : ∀ number, (after.node number).index =
      if number = call.number then .merging (call.applied present) else (network.node number).index)
    (kept : ∀ input ≠ call.input, (after.node input).observers = (network.node input).observers)
    (once : (after.node call.input).observers.registered.Nodup)
    (registers : .index number ∈ (after.node call.input).observers.registered ↔
      if call.number = number then call = .join number call.input
      else .index number ∈ (network.node call.input).observers.registered) :
    Heeds number after (calls ++ [call]) where
  once input := by
    by_cases isInput : input = call.input
    · rw [isInput]
      exact once
    · rw [kept input isInput]
      exact heeds.once input
  known input member := by
    rw [levels]
    by_cases isNumber : call.number = number
    · rw [← isNumber]
      exact inside_of_merging index
    · by_cases isInput : input = call.input
      · rw [isInput, registers, if_neg isNumber] at member
        exact heeds.known _ member
      · rw [kept input isInput] at member
        exact heeds.known input member
  merges inputs isMerging := by
    rw [indices] at isMerging
    rw [InputCall.merged_concat]
    split at isMerging
    · rename_i isNumber
      cases isMerging
      rw [if_pos isNumber.symm, heeds.merges present (isNumber ▸ index)]
    · rename_i isOther
      rw [if_neg (Ne.symm isOther)]
      exact heeds.merges inputs isMerging
  uncalled outside := by
    rw [levels] at outside
    have isOther : call.number ≠ number :=
      Nat.ne_of_lt (Nat.lt_of_lt_of_le (inside_of_merging index) outside)
    rw [InputCall.merged_concat, if_neg isOther]
    exact heeds.uncalled outside
  registered mayMerge input := by
    have mayMergeBefore : network.MayMerge number := by
      intro inside
      have isMerging := mayMerge (Nat.lt_of_lt_of_eq inside levels.symm)
      rw [indices] at isMerging
      split at isMerging
      · rename_i isNumber
        rw [isNumber]
        exact ⟨present, index⟩
      · exact isMerging
    have before := heeds.registered mayMergeBefore
    rw [InputCall.last?_concat]
    by_cases isInput : input = call.input
    · subst isInput
      rw [registers]
      by_cases isNumber : call.number = number
      · rw [if_pos isNumber, if_pos ⟨isNumber, rfl⟩, Option.some_inj]
      · rw [if_neg isNumber, if_neg fun isAbout => isNumber isAbout.1]
        exact before call.input
    · rw [kept input isInput, if_neg fun isAbout => isInput isAbout.2.symm]
      exact before input

theorem mergingAlso (heeds : Heeds number network calls) {other : Nat} {present : List Nat}
    (index : (network.node other).index = .merging present) (inside : input < network.levels)
    (live : number < network.levels → network.lives (.index number) = true) :
    Heeds number (mergingAlso other network input) (calls ++ [.join other input]) := by
  have registered := (observers_mergingAlso index inside input).trans (if_pos rfl)
  apply heeds.called (.join other input) index
  case levels => exact levels_mergingAlso index input
  case indices => exact index_mergingAlso index inside
  case kept =>
    intro below different
    exact (observers_mergingAlso index inside below).trans (if_neg different)
  case once =>
    simp only [InputCall.input, registered]
    exact Observers.nodup_add (heeds.once input)
  case registers =>
    simp only [InputCall.number, InputCall.input, registered,
      Observers.mem_add_iff fun member => live (heeds.known input member)]
    by_cases isNumber : number = other
    · simp [isNumber]
    · simp [isNumber, Ne.symm isNumber]

theorem mergingWithout (heeds : Heeds number network calls) {other : Nat} {present : List Nat}
    (index : (network.node other).index = .merging present) (inside : input < network.levels)
    (live : number < network.levels →
      (mergingWithout other network input).lives (.index number) = true) :
    Heeds number (mergingWithout other network input) (calls ++ [.leave other input]) := by
  have registered := (observers_mergingWithout index inside input).trans (if_pos rfl)
  have stillLive : number < network.levels →
      (network.setIndex other (.merging (present.erase input))).lives (.index number) = true := by
    intro there
    apply lives_of_subset _ _ _ _ (live there)
    · rw [levels_mergingWithout index, setIndex, levels_changeNode]
    · intro owner
      rw [index_mergingWithout index inside, index_setIndex (inside_of_merging index)]
      exact List.Subset.refl _
    · rw [mergingWithout_of_merging index]
      exact List.Subset.refl _
    · rw [mergingWithout_of_merging index]
      rfl
  apply heeds.called (.leave other input) index
  case levels => exact levels_mergingWithout index input
  case indices => exact index_mergingWithout index inside
  case kept =>
    intro below different
    exact (observers_mergingWithout index inside below).trans (if_neg different)
  case once =>
    simp only [InputCall.input, registered]
    exact Observers.nodup_remove (heeds.once input)
  case registers =>
    simp only [InputCall.number, InputCall.input, registered,
      Observers.mem_remove_iff fun member => stillLive (heeds.known input member)]
    by_cases isNumber : number = other
    · simp [isNumber]
    · simp [isNumber, Ne.symm isNumber]

theorem leave_unmerged (heeds : Heeds number network calls) {other : Nat} {present : List Nat}
    (index : (network.node other).index = .merging present) (notMember : input ∉ present) :
    Heeds number network (calls ++ [.leave other input]) := by
  have notRegistered : other = number →
      .index number ∉ (network.node input).observers.registered := by
    intro isNumber
    subst isNumber
    rw [heeds.registered fun _ => ⟨present, index⟩]
    rw [heeds.merges present index] at notMember
    exact fun joined => notMember (InputCall.mem_merged_of_joined joined)
  apply heeds.called (.leave other input) index rfl _ (fun _ _ => rfl) (heeds.once input)
  · split
    · rename_i isNumber
      simp only [reduceCtorEq, iff_false]
      exact notRegistered isNumber
    · exact Iff.rfl
  · intro below
    split
    · rename_i isOther
      rw [isOther]
      simp only [InputCall.number, InputCall.applied, List.erase_of_not_mem notMember]
      exact index
    · rfl

/-! ## Calls -/

theorem join (heeds : Heeds number network calls) {other : Nat} {present : List Nat}
    (index : (network.node other).index = .merging present) (inside : input < network.levels)
    (live : number < network.levels → network.lives (.index number) = true) :
    Heeds number (network.join other input) (calls ++ [.join other input]) :=
  (heeds.mergingAlso index inside live).apart (sameWiring_join index input).sameRegistry

theorem leave (heeds : Heeds number network calls) {other : Nat} {present : List Nat}
    (index : (network.node other).index = .merging present) (inside : input < network.levels)
    (live : number < (network.leave other input).levels →
      (network.leave other input).lives (.index number) = true) :
    Heeds number (network.leave other input) (calls ++ [.leave other input]) := by
  by_cases member : input ∈ present
  · have same := sameWiring_leave index member
    rw [same.levels, levels_mergingWithout index, same.lives] at live
    exact (heeds.mergingWithout index inside live).apart same.sameRegistry
  · rw [leave_of_not_mem index member]
    exact heeds.leave_unmerged index member

theorem foldl_mergingAlso (heeds : Heeds number network calls) {other : Nat} {present : List Nat}
    (index : (network.node other).index = .merging present) {inputs : List Nat}
    (inside : ∀ input ∈ inputs, input < network.levels)
    (live : number < network.levels → network.lives (.index number) = true) :
    Heeds number (inputs.foldl (Network.mergingAlso other) network)
      (calls ++ inputs.map (.join other)) := by
  induction inputs generalizing network calls present with
  | nil =>
      rw [List.map_nil, List.append_nil]
      exact heeds
  | cons input inputs induction =>
      have first := inside input List.mem_cons_self
      rw [List.foldl_cons, List.map_cons, List.append_cons]
      apply induction (heeds.mergingAlso index first live)
      · rw [index_mergingAlso index first, if_pos rfl]
      · rw [levels_mergingAlso index]
        exact fun other member => inside other (List.mem_cons_of_mem _ member)
      · rw [levels_mergingAlso index]
        exact fun there => lives_mergingAlso index first (live there)

theorem addMerging (heeds : Heeds number network calls) {inputs : List Nat}
    (inside : ∀ input ∈ inputs, input < network.levels)
    (live : number < network.levels → network.lives (.index number) = true) :
    Heeds number (network.addMerging inputs).2 (calls ++ inputs.map (.join network.levels)) := by
  have added : Heeds number (network.addIndex (.merging [])).2 calls := by
    apply heeds.addIndex
    intro inputs isMerging
    cases isMerging
    rfl
  have index : ((network.addIndex (.merging [])).2.node network.levels).index = .merging [] := by
    rw [node_addIndex, if_pos rfl]
  apply added.foldl_mergingAlso index
  · intro input member
    rw [levels_addIndex]
    exact Nat.lt_succ_of_lt (inside input member)
  · exact lives_addIndex _ live

end Heeds

theorem MergingRun.heeds (run : MergingRun number network calls) : Heeds number network calls := by
  induction run with
  | start => exact .empty
  | @step before after calls new run rewires held induction =>
      have heldBefore : number < before.levels → before.lives (.index number) = true := by
        cases run with
        | start => exact fun inside => absurd inside (Nat.not_lt_zero number)
        | step _ _ held => exact held
      cases rewires with
      | added notMerging =>
          rw [List.append_nil]
          exact induction.addIndex fun inputs isMerging => absurd isMerging (notMerging inputs)
      | merged inside => exact induction.addMerging inside heldBefore
      | joined index inside => exact induction.join index inside heldBefore
      | left index inside => exact induction.leave index inside held
      | observed inside notMerging =>
          rw [List.append_nil]
          exact induction.observe inside notMerging heldBefore
      | apart same =>
          rw [List.append_nil]
          exact induction.apart same

/-- At every point of a run, a merging index merges what the calls to it say, and nobody is
registered twice with an index. It is registered with those of the indices that it merges which the
last call about them did not have leave: one that was merged several times and has left once is
still merged, and not observed until it joins again. If no index was ever merged twice at a time, a
merging index is registered with just those that it merges. -/
theorem MergingRun.observes_merged {inputs : List Nat} (run : MergingRun number network calls)
    (index : (network.node number).index = .merging inputs) :
    inputs = InputCall.merged number calls ∧
    (∀ input, (network.node input).observers.registered.Nodup) ∧
    (∀ input, .index number ∈ (network.node input).observers.registered ↔
      input ∈ inputs ∧ InputCall.last? number input calls ≠ some (.leave number input)) ∧
    ((∀ earlier, earlier <+: calls → (InputCall.merged number earlier).Nodup) →
      ∀ input, .index number ∈ (network.node input).observers.registered ↔ input ∈ inputs) := by
  have heeds := run.heeds
  have isMerged := heeds.merges inputs index
  have registered : ∀ input, .index number ∈ (network.node input).observers.registered ↔
      input ∈ inputs ∧ InputCall.last? number input calls ≠ some (.leave number input) := by
    intro input
    rw [heeds.registered fun _ => ⟨inputs, index⟩, isMerged]
    exact InputCall.joined_iff
  refine ⟨isMerged, heeds.once, registered, ?_⟩
  intro once input
  rw [registered, and_iff_left_iff_imp, isMerged]
  exact fun member left => InputCall.not_mem_merged_of_left left once member

def mergedTwice : Network :=
  ((empty.addRetained.2.addRetained.2.addMerging [0, 0]).2.leave 2 0).join 2 1

theorem mergingRun_mergedTwice :
    MergingRun 2 mergedTwice [.join 2 0, .join 2 0, .leave 2 0, .join 2 1] := by
  have retained : ∀ inputs, Index.retained .empty ≠ .merging inputs := by simp
  have first : MergingRun 2 empty.addRetained.2 [] := .step .start (.added retained) (by decide)
  have second : MergingRun 2 empty.addRetained.2.addRetained.2 [] :=
    .step first (.added retained) (by decide)
  have merged := second.step (.merged (show ∀ input ∈ [0, 0], input < 2 by decide)) (by decide)
  have mergedIndex : ((empty.addRetained.2.addRetained.2.addMerging [0, 0]).2.node 2).index =
      .merging [0, 0] := rfl
  have left := merged.step (.left mergedIndex (show 0 < 3 by decide)) (by decide)
  have leftIndex : (((empty.addRetained.2.addRetained.2.addMerging [0, 0]).2.leave 2 0).node
      2).index = .merging [0] := rfl
  exact left.step (.joined leftIndex (show 1 < 3 by decide)) (by decide)

theorem MergingRun.observes_merged_mergedTwice :
    (mergedTwice.node 2).index = .merging [0, 1] ∧
      .index 2 ∈ (mergedTwice.node 1).observers.registered ∧
      .index 2 ∉ (mergedTwice.node 0).observers.registered := by
  have index : (mergedTwice.node 2).index = .merging [0, 1] := rfl
  rcases mergingRun_mergedTwice.observes_merged index with ⟨_, _, registered, _⟩
  exact ⟨index, (registered 1).mpr (by decide), mt (registered 0).mp (by decide)⟩

/-- An index that is merged twice and leaves once is still merged, but nobody is registered with it.
-/
theorem not_observed_merged_twice :
    let network := (empty.addRetained.2.addMerging [0, 0]).2.leave 1 0
    (network.node 1).index = .merging [0] ∧ (network.node 0).observers.registered = [] :=
  ⟨rfl, rfl⟩

end LayeredScene.Network
