import LayeredScene.Proofs.Network.Sending

/-! # Layers of indices

Where no index stands on itself, the indices have ranks that grow from those at the bottom to those
that stand on others. Scenes are then shown, and batches passed on, without a limit on the levels
ever being met. Networks keep such ranks as indices are added on top.
-/

namespace LayeredScene

namespace Observers

variable {α : Type} [DecidableEq α] {observers : Observers α} {lives : α → Bool} {observer : α}

theorem mem_or_eq_of_mem_add {other : α}
    (member : other ∈ (observers.add lives observer).registered) :
    other ∈ observers.registered ∨ other = observer := by
  rw [add] at member
  split at member
  · exact .inl (List.mem_filter.mp member).1
  · rcases List.mem_append.mp member with old | isNew
    · exact .inl (List.mem_filter.mp old).1
    · exact .inr (List.mem_singleton.mp isNew)

theorem nodup_add (once : observers.registered.Nodup) :
    (observers.add lives observer).registered.Nodup := by
  have present : (observers.live lives).Nodup := once.filter lives
  rw [add]
  split
  · exact present
  · rename_i absent
    apply List.nodup_append.mpr ⟨present, List.pairwise_singleton _ observer, _⟩
    intro other member last isLast
    rw [List.mem_singleton.mp isLast]
    intro same
    subst same
    exact absent (List.contains_iff_mem.mpr member)

end Observers

namespace Network

variable {network : Network} {rank : Nat → Nat} {number : Nat}

/-- Every index has a higher rank than those it stands on, and only indices that stand on one
observe it, each of them once. -/
structure Layered (network : Network) (rank : Nat → Nat) : Prop where
  rank_lt : ∀ number < network.levels, rank number < network.levels
  rank_input : ∀ number, ∀ input ∈ (network.node number).index.inputs, rank input < rank number
  observes_input : ∀ number input, .index number ∈ (network.node input).observers.registered →
    input ∈ (network.node number).index.inputs
  once : ∀ number, (network.node number).observers.registered.Nodup

theorem node_of_outside (outside : network.levels ≤ number) : network.node number = default := by
  rw [node, Array.getElem?_eq_none outside]
  rfl

theorem exists_levels (inside : number < network.levels) :
    ∃ levels, network.levels = levels + 1 :=
  Nat.exists_eq_succ_of_ne_zero (Nat.ne_zero_of_lt inside)

theorem inside_of_input {input : Nat} (member : input ∈ (network.node number).index.inputs) :
    number < network.levels := by
  apply Nat.lt_of_not_le
  intro outside
  rw [node_of_outside outside] at member
  cases member

theorem inside_of_merging {inputs : List Nat}
    (index : (network.node number).index = .merging inputs) : number < network.levels := by
  apply Nat.lt_of_not_le
  intro outside
  rw [node_of_outside outside] at index
  cases index

theorem mem_inputs_of_filter {input : Nat} {filter : Filter}
    (index : (network.node number).index = .filter input filter) :
    input ∈ (network.node number).index.inputs := by
  rw [index]
  exact List.mem_singleton_self input

namespace Layered

theorem of_sameShape {after : Network} (layered : network.Layered rank)
    (same : network.SameShape after) : after.Layered rank where
  rank_lt := by
    rw [same.levels]
    exact layered.rank_lt
  rank_input number := by
    rw [same.inputs]
    exact layered.rank_input number
  observes_input number input := by
    rw [same.observers, same.inputs]
    exact layered.observes_input number input
  once number := by
    rw [same.observers]
    exact layered.once number

theorem input_of_liveObserver {input : Nat} (layered : network.Layered rank)
    (observes : .index number ∈ network.liveObservers input) :
    input ∈ (network.node number).index.inputs :=
  layered.observes_input number input (List.mem_filter.mp observes).1

theorem rank_liveObserver {input : Nat} (layered : network.Layered rank)
    (observes : .index number ∈ network.liveObservers input) : rank input < rank number :=
  layered.rank_input number input (layered.input_of_liveObserver observes)

theorem liveObservers_nodup (layered : network.Layered rank) (number : Nat) :
    (network.liveObservers number).Nodup :=
  (layered.once number).filter _

/-! ## Scenes -/

theorem sceneThrough_eq (layered : network.Layered rank) {levels others : Nat}
    (enough : rank number < levels) (othersEnough : rank number < others) :
    network.sceneThrough levels number = network.sceneThrough others number := by
  induction levels generalizing number others with
  | zero => omega
  | succ levels induction =>
      cases others with
      | zero => omega
      | succ others =>
          have inputs : ∀ input ∈ (network.node number).index.inputs,
              network.sceneThrough levels input = network.sceneThrough others input := by
            intro input member
            have lower := layered.rank_input number input member
            exact induction (by omega) (by omega)
          rw [sceneThrough, sceneThrough]
          cases index : (network.node number).index with
          | retained table => rfl
          | delegated table served => rfl
          | merging below =>
              rw [index] at inputs
              exact congrArg Scene.merge (List.map_congr_left inputs)
          | filter input filter =>
              rw [index] at inputs
              exact congrArg (filter.scene number input)
                (inputs input (List.mem_singleton_self input))

theorem scene_filter {input : Nat} {filter : Filter} (layered : network.Layered rank)
    (index : (network.node number).index = .filter input filter) :
    network.scene number = filter.scene number input (network.scene input) := by
  have member := mem_inputs_of_filter index
  have bounded := layered.rank_lt number (inside_of_input member)
  have lower := layered.rank_input number input member
  rcases exists_levels (inside_of_input member) with ⟨levels, enough⟩
  rw [scene, scene, enough, sceneThrough, index]
  exact congrArg (filter.scene number input) (layered.sceneThrough_eq (by omega) (by omega))

theorem scene_merging {inputs : List Nat} (layered : network.Layered rank)
    (inside : number < network.levels) (index : (network.node number).index = .merging inputs) :
    network.scene number = .merge (inputs.map network.scene) := by
  have bounded := layered.rank_lt number inside
  rcases exists_levels inside with ⟨levels, enough⟩
  have below : ∀ input ∈ inputs, network.sceneThrough levels input = network.scene input := by
    intro input member
    have lower : rank input < rank number :=
      layered.rank_input number input (by rw [index]; exact member)
    exact layered.sceneThrough_eq (by omega) (by omega)
  rw [scene, enough, sceneThrough, index]
  exact congrArg Scene.merge (List.map_congr_left below)

end Layered

/-! ## Building in layers -/

theorem node_addIndex (network : Network) (index : Index) (number : Nat) :
    (network.addIndex index).2.node number =
      if number = network.levels then ⟨index, .none⟩ else network.node number := by
  by_cases isNew : number = network.levels
  · simp [node, addIndex, levels, isNew]
  · have old : number ≠ network.nodes.size := isNew
    rw [if_neg isNew, node, addIndex, Array.getElem?_push, if_neg old, node]

theorem levels_addIndex (network : Network) (index : Index) :
    (network.addIndex index).2.levels = network.levels + 1 := by
  simp [levels, addIndex]

theorem node_changeNode (network : Network) (changed : Nat) (change : Node → Node)
    (inside : changed < network.levels) (number : Nat) :
    (network.changeNode changed change).node number =
      if number = changed then change (network.node changed) else network.node number := by
  simp only [node, changeNode, Array.getElem?_modify, eq_comm (a := changed)]
  split
  · rename_i same
    rw [same, Array.getElem?_eq_getElem inside]
    rfl
  · rfl

theorem levels_changeNode (network : Network) (changed : Nat) (change : Node → Node) :
    (network.changeNode changed change).levels = network.levels := by
  simp [levels, changeNode]

theorem index_setIndex (inside : number < network.levels) (index : Index) (other : Nat) :
    ((network.setIndex number index).node other).index =
      if other = number then index else (network.node other).index := by
  rw [setIndex, node_changeNode _ _ _ inside]
  split <;> rfl

theorem observers_setIndex (inside : number < network.levels) (index : Index) (other : Nat) :
    ((network.setIndex number index).node other).observers = (network.node other).observers := by
  rw [setIndex, node_changeNode _ _ _ inside]
  split
  · rename_i isChanged
    rw [isChanged]
  · rfl

theorem sameShape_setIndex (inside : number < network.levels) {index : Index}
    (same : index.inputs = (network.node number).index.inputs) :
    network.SameShape (network.setIndex number index) where
  levels := levels_changeNode network number _
  inputs other := by
    rw [index_setIndex inside]
    split
    · rename_i isChanged
      rw [isChanged]
      exact same
    · rfl
  observers := observers_setIndex inside index
  handles := rfl
  listeners := rfl
  held := rfl

theorem replaced_of_setIndex {index : Index} {after : Network} (inside : number < network.levels)
    (inputs : index.inputs = (network.node number).index.inputs)
    (same : (network.setIndex number index).SameWiring after) :
    network.SameShape after ∧ number < after.levels ∧ (after.node number).index = index := by
  refine ⟨(sameShape_setIndex inside inputs).trans same.sameShape, ?_, ?_⟩
  · rw [same.levels, setIndex, levels_changeNode]
    exact inside
  · rw [same.node, index_setIndex inside, if_pos rfl]

theorem index_observe (inside : number < network.levels) (observer : Observer) (other : Nat) :
    ((network.observe number observer).node other).index = (network.node other).index := by
  rw [observe, node_changeNode _ _ _ inside]
  split
  · rename_i isChanged
    rw [isChanged]
  · rfl

theorem observers_observe (inside : number < network.levels) (observer : Observer) (other : Nat) :
    ((network.observe number observer).node other).observers =
      if other = number then (network.node number).observers.add network.lives observer
      else (network.node other).observers := by
  rw [observe, node_changeNode _ _ _ inside]
  split <;> rfl

def mergingAlso (number : Nat) (network : Network) (input : Nat) : Network :=
  match (network.node number).index with
  | .merging present =>
      (network.observe input (.index number)).setIndex number (.merging (present ++ [input]))
  | _ => network

theorem mergingAlso_of_merging {present : List Nat}
    (index : (network.node number).index = .merging present) (input : Nat) :
    mergingAlso number network input =
      (network.observe input (.index number)).setIndex number
        (.merging (present ++ [input])) := by
  rw [mergingAlso, index]

namespace Layered

theorem empty : Network.empty.Layered rank where
  rank_lt number inside := absurd inside (Nat.not_lt_zero number)
  rank_input number input member := by
    rw [node_of_outside (Nat.zero_le number)] at member
    cases member
  observes_input number input observes := by
    rw [node_of_outside (Nat.zero_le input)] at observes
    cases observes
  once number := by
    rw [node_of_outside (Nat.zero_le number)]
    exact List.nodup_nil

theorem addIndex (layered : network.Layered id) {index : Index}
    (inside : ∀ input ∈ index.inputs, input < network.levels) :
    (network.addIndex index).2.Layered id where
  rank_lt number inside := inside
  rank_input number input member := by
    rw [node_addIndex] at member
    split at member
    · rename_i isNew
      exact isNew ▸ inside input member
    · exact layered.rank_input number input member
  observes_input number input observes := by
    rw [node_addIndex] at observes
    split at observes
    · cases observes
    · have old := layered.observes_input number input observes
      rw [node_addIndex, if_neg (Nat.ne_of_lt (inside_of_input old))]
      exact old
  once number := by
    rw [node_addIndex]
    split
    · exact List.nodup_nil
    · exact layered.once number

theorem nodup_observe (layered : network.Layered rank) (inside : number < network.levels)
    (observer : Observer) (other : Nat) :
    ((network.observe number observer).node other).observers.registered.Nodup := by
  rw [observers_observe inside]
  split
  · exact Observers.nodup_add (layered.once number)
  · exact layered.once other

theorem observe (layered : network.Layered rank) (inside : number < network.levels)
    {observer : Observer}
    (allowed : ∀ index, observer = .index index → number ∈ (network.node index).index.inputs) :
    (network.observe number observer).Layered rank := by
  constructor
  · rw [Network.observe, levels_changeNode]
    exact layered.rank_lt
  · intro other input member
    rw [index_observe inside] at member
    exact layered.rank_input other input member
  · intro other input observes
    rw [index_observe inside]
    rw [observers_observe inside] at observes
    split at observes
    · rename_i isChanged
      rw [isChanged]
      rcases Observers.mem_or_eq_of_mem_add observes with old | isNew
      · exact layered.observes_input other number old
      · exact allowed other isNew.symm
    · exact layered.observes_input other input observes
  · exact layered.nodup_observe inside observer

theorem addRetained (layered : network.Layered id) : network.addRetained.2.Layered id := by
  apply layered.addIndex
  intro input member
  cases member

theorem addDelegated (layered : network.Layered id) : network.addDelegated.2.Layered id := by
  apply layered.addIndex
  intro input member
  cases member

theorem addFilter (layered : network.Layered id) {input : Nat} (inside : input < network.levels)
    (filter : Filter) (connected : Bool) :
    (network.addFilter input filter connected).2.Layered id := by
  have added : (network.addIndex (.filter input filter)).2.Layered id := by
    apply layered.addIndex
    intro other member
    rw [List.mem_singleton.mp member]
    exact inside
  cases connected with
  | false => exact added
  | true =>
      apply added.observe
      · rw [levels_addIndex]
        exact Nat.lt_succ_of_lt inside
      · intro index isIndex
        cases isIndex
        rw [node_addIndex, if_pos (show network.nodes.size = network.levels from rfl)]
        exact List.mem_singleton_self input

theorem observe_setIndex (layered : network.Layered rank) {inputs : List Nat} {input : Nat}
    (index : (network.node number).index = .merging inputs) (inside : number < network.levels)
    (inputInside : input < network.levels) (before : rank input < rank number) :
    ((network.observe input (.index number)).setIndex number
      (.merging (inputs ++ [input]))).Layered rank := by
  have stillInside : number < (network.observe input (.index number)).levels :=
    Nat.lt_of_lt_of_eq inside (levels_changeNode _ _ _).symm
  have inputsAfter : ∀ other, (if other = number then Index.merging (inputs ++ [input])
      else (network.node other).index).inputs =
        if other = number then inputs ++ [input] else (network.node other).index.inputs := by
    intro other
    split <;> rfl
  have kept : ∀ other below, below ∈ (network.node other).index.inputs →
      below ∈ if other = number then inputs ++ [input] else (network.node other).index.inputs := by
    intro other below member
    split
    · rename_i isChanged
      rw [isChanged, index] at member
      exact List.mem_append_left _ member
    · exact member
  constructor
  · rw [setIndex, levels_changeNode, Network.observe, levels_changeNode]
    exact layered.rank_lt
  · intro other below member
    rw [index_setIndex stillInside, index_observe inputInside, inputsAfter] at member
    split at member
    · rename_i isChanged
      rcases List.mem_append.mp member with old | isNew
      · exact layered.rank_input other below (by rw [isChanged, index]; exact old)
      · rw [List.mem_singleton.mp isNew, isChanged]
        exact before
    · exact layered.rank_input other below member
  · intro other below observes
    rw [index_setIndex stillInside, index_observe inputInside, inputsAfter]
    rw [observers_setIndex stillInside, observers_observe inputInside] at observes
    split at observes
    · rename_i isChanged
      rw [isChanged]
      rcases Observers.mem_or_eq_of_mem_add observes with old | isNew
      · exact kept other input (layered.observes_input other input old)
      · cases isNew
        rw [if_pos rfl]
        exact List.mem_append_right _ (List.mem_singleton_self input)
    · exact kept other below (layered.observes_input other below observes)
  · intro other
    rw [observers_setIndex stillInside]
    exact layered.nodup_observe inputInside _ other

theorem addMerging (layered : network.Layered id) {inputs : List Nat}
    (inside : ∀ input ∈ inputs, input < network.levels) :
    (network.addMerging inputs).2.Layered id := by
  -- what the new index stands on grows with each input that it comes to observe
  have grows : ∀ (current : Network) (present : List Nat), current.Layered id →
      (current.node network.levels).index = .merging present → network.levels < current.levels →
      (inputs.foldl (mergingAlso network.levels) current).Layered id := by
    induction inputs with
    | nil => exact fun current present started _ _ => started
    | cons input inputs induction =>
        intro current present started index there
        have before := inside input List.mem_cons_self
        have stillThere : network.levels <
            (current.observe input (.index network.levels)).levels :=
          Nat.lt_of_lt_of_eq there (levels_changeNode _ _ _).symm
        rw [List.foldl_cons, mergingAlso_of_merging index]
        apply induction (fun other member => inside other (List.mem_cons_of_mem _ member)) _
          (present ++ [input])
          (started.observe_setIndex index there (Nat.lt_trans before there) before)
        · rw [index_setIndex stillThere, if_pos rfl]
        · exact Nat.lt_of_lt_of_eq stillThere (levels_changeNode _ _ _).symm
  apply grows (network.addIndex (.merging [])).2 []
  · exact layered.addIndex fun _ member => absurd member List.not_mem_nil
  · rw [node_addIndex, if_pos rfl]
  · rw [levels_addIndex]
    exact Nat.lt_succ_self _

theorem addListener (layered : network.Layered rank) (attention : Attention) :
    (network.addListener attention).2.Layered rank where
  rank_lt := layered.rank_lt
  rank_input := layered.rank_input
  observes_input := layered.observes_input
  once := layered.once

end Layered

end Network

end LayeredScene
