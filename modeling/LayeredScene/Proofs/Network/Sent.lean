import LayeredScene.Proofs.Filter.Replay
import LayeredScene.Proofs.Network.Layers
import Mathlib.Data.List.Basic

/-! # What an index sends

A batch that goes out from one index makes others send batches of their own. What one of them sends
is worked out here without following what anybody hears: each answer depends on the indices alone.
A listener hears just that, and a filter sends what it makes of each batch that the index below it
sends.
-/

namespace LayeredScene.Network

variable {network : Network} {rank : Nat → Nat} {number listener : Nat}

def sentOnTelling (network : Network) (sent : Nat → Batch → List Batch) (sender : Nat)
    (batch : Batch) : Observer → List Batch
  | .listener _ => []
  | .index observer => (network.responses observer sender batch).flatMap (sent observer)

/-- What an index sends while a batch goes out from a sender through at most so many levels. -/
def sentThrough (network : Network) (number : Nat) : (levels : Nat) → Nat → Batch → List Batch
  | 0, _, _ => []
  | levels + 1, sender, batch =>
      if batch.isEmpty then []
      else
        (if sender = number then [batch] else []) ++
          (network.liveObservers sender).flatMap
            (network.sentOnTelling (network.sentThrough number levels) sender batch)

/-- What an index sends while a batch goes out from a sender. -/
def sent (network : Network) (number sender : Nat) (batch : Batch) : List Batch :=
  network.sentThrough number network.levels sender batch

/-- What a listener has heard from an index. -/
def heardFrom (network : Network) (listener sender : Nat) : List Batch :=
  (network.heard.filter fun heard => heard.listener = listener && heard.sender = sender).map
    (·.batch)

def heardAt (network : Network) (sender : Nat) : List (Nat × Batch) :=
  (network.heard.filter (·.sender = sender)).map fun heard => (heard.listener, heard.batch)

def hearing (network : Network) (sender : Nat) (batch : Batch) : Observer → List (Nat × Batch)
  | .listener number =>
      match network.listeners[number]? with
      | some known =>
          ((taken known.attention (network.scene sender) batch).filter (!·.isEmpty)).map (number, ·)
      | none => []
  | .index _ => []

theorem heardFrom_eq (network : Network) (listener sender : Nat) :
    network.heardFrom listener sender =
      ((network.heardAt sender).filter (·.1 = listener)).map (·.2) := by
  simp [heardFrom, heardAt, List.filter_map, List.filter_filter, Function.comp_def]

theorem heardFrom_of_unheard {changed : Network} (unheard : changed.heard = network.heard)
    (listener sender : Nat) :
    changed.heardFrom listener sender = network.heardFrom listener sender := by
  rw [heardFrom, unheard, heardFrom]

theorem flatMap_of_once {α β : Type} {items : List α} {item : α} {gives : α → List β}
    (nodup : items.Nodup) (member : item ∈ items)
    (others : ∀ other ∈ items, other ≠ item → gives other = []) :
    items.flatMap gives = gives item := by
  rcases List.append_of_mem member with ⟨before, after, rfl⟩
  have parts := List.nodup_append.mp nodup
  have beforeNothing : before.flatMap gives = [] := by
    apply List.flatMap_eq_nil_iff.mpr
    intro other isBefore
    exact others other (List.mem_append_left _ isBefore)
      (parts.2.2 other isBefore item List.mem_cons_self)
  have afterNothing : after.flatMap gives = [] := by
    apply List.flatMap_eq_nil_iff.mpr
    intro other isAfter
    apply others other (List.mem_append_right _ (List.mem_cons_of_mem _ isAfter))
    intro same
    subst same
    exact (List.nodup_cons.mp parts.2.1).1 isAfter
  rw [List.flatMap_append, List.flatMap_cons, beforeNothing, afterNothing, List.nil_append,
    List.append_nil]

/-! ## Upwards only -/

theorem flatMap_sentOnTelling_of_silent {sent : Nat → Batch → List Batch} {sender : Nat}
    (silent : ∀ other, .index other ∈ network.liveObservers sender →
      ∀ response, sent other response = []) (batch : Batch) :
    (network.liveObservers sender).flatMap (network.sentOnTelling sent sender batch) = [] := by
  apply List.flatMap_eq_nil_iff.mpr
  intro observer observes
  cases observer with
  | listener other => rfl
  | index other =>
      apply List.flatMap_eq_nil_iff.mpr
      intro response _
      exact silent other observes response

theorem sentThrough_of_quiet (quiet : Nat → Prop) {sender : Nat}
    (elsewhere : ∀ sender, quiet sender → sender ≠ number)
    (upwards : ∀ sender other, quiet sender → .index other ∈ network.liveObservers sender →
      quiet other)
    (isQuiet : quiet sender) (levels : Nat) (batch : Batch) :
    network.sentThrough number levels sender batch = [] := by
  induction levels generalizing sender batch with
  | zero => rfl
  | succ levels induction =>
      have silent : ∀ other, .index other ∈ network.liveObservers sender →
          ∀ response, network.sentThrough number levels other response = [] := by
        intro other observes
        exact induction (upwards sender other isQuiet observes)
      rw [sentThrough, if_neg (elsewhere sender isQuiet), flatMap_sentOnTelling_of_silent silent,
        List.append_nil, ite_self]

namespace Layered

theorem sentThrough_of_rank_lt (layered : network.Layered rank) {sender : Nat}
    (above : rank number < rank sender) (levels : Nat) (batch : Batch) :
    network.sentThrough number levels sender batch = [] := by
  refine sentThrough_of_quiet (fun sender => rank number < rank sender) ?_ ?_ above levels batch
  · intro sender above
    exact ne_of_apply_ne rank (Nat.ne_of_gt above)
  · intro sender other above observes
    exact Nat.lt_trans above (layered.rank_liveObserver observes)

theorem sentThrough_self (layered : network.Layered rank) (levels : Nat) (batch : Batch) :
    network.sentThrough number (levels + 1) number batch =
      if batch.isEmpty then [] else [batch] := by
  have silent : ∀ other, .index other ∈ network.liveObservers number →
      ∀ response, network.sentThrough number levels other response = [] := by
    intro other observes
    exact layered.sentThrough_of_rank_lt (layered.rank_liveObserver observes) levels
  rw [sentThrough, if_pos rfl, flatMap_sentOnTelling_of_silent silent, List.append_nil]

theorem sentThrough_of_below (layered : network.Layered rank) {below levels : Nat} {batch : Batch}
    (observes : .index number ∈ network.liveObservers below) (notEmpty : batch.isEmpty = false)
    (beside : ∀ other, .index other ∈ network.liveObservers below → other ≠ number →
      ∀ response, network.sentThrough number (levels + 1) other response = []) :
    network.sentThrough number (levels + 2) below batch =
      (network.responses number below batch).filter (!·.isEmpty) := by
  have higher := layered.rank_liveObserver observes
  have elsewhere : below ≠ number := ne_of_apply_ne rank (Nat.ne_of_lt higher)
  have othersSilent : ∀ other ∈ network.liveObservers below, other ≠ .index number →
      network.sentOnTelling (network.sentThrough number (levels + 1)) below batch other = [] := by
    intro observer observesBelow different
    cases observer with
    | listener other => rfl
    | index other =>
        apply List.flatMap_eq_nil_iff.mpr
        intro response _
        exact beside other observesBelow (fun same => different (congrArg _ same)) response
  rw [sentThrough, notEmpty, if_neg elsewhere, List.nil_append, if_neg Bool.false_ne_true,
    flatMap_of_once (layered.liveObservers_nodup below) observes othersSilent, sentOnTelling]
  induction network.responses number below batch with
  | nil => rfl
  | cons response responses induction =>
      rw [List.flatMap_cons, layered.sentThrough_self, List.filter_cons, ← induction]
      cases response.isEmpty <;> rfl

end Layered

/-! ## Through a filter -/

section Filter

variable {below sender : Nat} {filter : Filter} {batch : Batch}

theorem responses_filter (index : (network.node number).index = .filter below filter)
    (noRename : batch.isRename = false) :
    network.responses number sender batch = [filter.forward batch] := by
  rw [responses, index]
  exact filter.respond_of_not_isRename _ noRename

namespace Layered

theorem eq_of_filter_observes (layered : network.Layered rank)
    (index : (network.node number).index = .filter below filter)
    (observes : .index number ∈ network.liveObservers sender) : sender = below := by
  have input := layered.input_of_liveObserver observes
  rw [index] at input
  exact List.mem_singleton.mp input

theorem sentThrough_of_beside (layered : network.Layered rank)
    (index : (network.node number).index = .filter below filter)
    (above : rank below < rank sender) (elsewhere : sender ≠ number) (levels : Nat)
    (batch : Batch) : network.sentThrough number levels sender batch = [] := by
  refine sentThrough_of_quiet (fun sender => rank below < rank sender ∧ sender ≠ number)
    (fun _ => And.right) ?_ ⟨above, elsewhere⟩ levels batch
  intro sender other beyond observes
  refine ⟨Nat.lt_trans beyond.1 (layered.rank_liveObserver observes), ?_⟩
  intro same
  subst same
  have isBelow := layered.eq_of_filter_observes index observes
  exact Nat.ne_of_gt beyond.1 (congrArg rank isBelow)

theorem sentThrough_filter_of_below (layered : network.Layered rank)
    (index : (network.node number).index = .filter below filter)
    (observes : .index number ∈ network.liveObservers below) (noRename : batch.isRename = false)
    (notEmpty : batch.isEmpty = false) (levels : Nat) :
    network.sentThrough number (levels + 2) below batch =
      [filter.forward batch].filter (!·.isEmpty) := by
  have higher := layered.rank_liveObserver observes
  rw [layered.sentThrough_of_below observes notEmpty, responses_filter index noRename]
  intro other observesBelow beside response
  exact layered.sentThrough_of_beside index (layered.rank_liveObserver observesBelow) beside _
    response

theorem sentThrough_filter (layered : network.Layered rank)
    (index : (network.node number).index = .filter below filter)
    (observes : .index number ∈ network.liveObservers below) {levels : Nat}
    (elsewhere : sender ≠ number) (enough : network.levels ≤ levels + rank sender)
    (noRename : ∀ said ∈ network.sentThrough below levels sender batch, said.isRename = false) :
    network.sentThrough number levels sender batch =
      ((network.sentThrough below levels sender batch).map filter.forward).filter (!·.isEmpty) := by
  induction levels generalizing sender batch with
  | zero => rfl
  | succ levels induction =>
      cases isEmpty : batch.isEmpty with
      | true => simp [sentThrough, isEmpty]
      | false =>
          by_cases atBelow : sender = below
          · -- the rank of the filter leaves one more level after this one
            subst sender
            have higher := layered.rank_liveObserver observes
            have bounded := layered.rank_lt number
              (inside_of_input (layered.input_of_liveObserver observes))
            obtain ⟨rest, rfl⟩ : ∃ rest, levels = rest + 1 :=
              Nat.exists_eq_succ_of_ne_zero (by omega)
            rw [layered.sentThrough_self, isEmpty] at noRename ⊢
            exact layered.sentThrough_filter_of_below index observes
              (noRename batch (List.mem_singleton_self batch)) isEmpty rest
          · -- whoever is told now is not the filter, which only the index below it tells
            simp only [sentThrough, isEmpty, elsewhere, atBelow, if_false, List.nil_append,
              Bool.false_eq_true] at noRename ⊢
            rw [List.map_flatMap, List.filter_flatMap]
            apply List.flatMap_congr
            intro observer observesSender
            cases observer with
            | listener other => rfl
            | index other =>
                have higher := layered.rank_liveObserver observesSender
                rw [sentOnTelling, sentOnTelling, List.map_flatMap, List.filter_flatMap]
                apply List.flatMap_congr
                intro response member
                apply induction _ (by omega)
                · intro said isSaid
                  exact noRename said (List.mem_flatMap.mpr ⟨.index other, observesSender,
                    List.mem_flatMap.mpr ⟨response, member, isSaid⟩⟩)
                · intro same
                  subst same
                  exact atBelow (layered.eq_of_filter_observes index observesSender)

end Layered

end Filter

/-! ## Hearing -/

section Hearing

variable {current : Network} {other sender : Nat} {batch : Batch}

theorem heard_foldl {α γ : Type} (hears : Network → List γ) {step : Network → α → Network}
    {items : List α} {emits : α → List γ}
    (same : ∀ (current : Network) (item : α), current.SameWiring (step current item))
    (emits_item : ∀ item ∈ items, ∀ current, network.SameWiring current →
      hears (step current item) = hears current ++ emits item)
    (wired : network.SameWiring current) :
    hears (items.foldl step current) = hears current ++ items.flatMap emits := by
  induction items generalizing current with
  | nil => simp
  | cons item items induction =>
      rw [List.foldl_cons, List.flatMap_cons, ← List.append_assoc,
        ← emits_item item List.mem_cons_self current wired]
      exact induction (fun other member => emits_item other (List.mem_cons_of_mem _ member))
        (wired.trans (same current item))

theorem heard_foldl_of_unheard {α γ : Type} (hears : Network → List γ)
    {step : Network → α → Network} {items : List α}
    (same : ∀ (current : Network) (item : α), current.SameWiring (step current item))
    (unheard : ∀ item ∈ items, ∀ current, network.SameWiring current →
      hears (step current item) = hears current)
    (wired : network.SameWiring current) : hears (items.foldl step current) = hears current := by
  have heard := heard_foldl hears same (fun item member current wired =>
    (unheard item member current wired).trans (List.append_nil _).symm) wired
  rw [heard, List.flatMap_eq_nil_iff.mpr fun _ _ => rfl, List.append_nil]

theorem heardFrom_foldl {α : Type} {step : Network → α → Network} {items : List α}
    {emits : α → List Batch}
    (same : ∀ (current : Network) (item : α), current.SameWiring (step current item))
    (emits_item : ∀ item ∈ items, ∀ current, network.SameWiring current →
      (step current item).heardFrom listener number =
        current.heardFrom listener number ++ emits item)
    (wired : network.SameWiring current) :
    (items.foldl step current).heardFrom listener number =
      current.heardFrom listener number ++ items.flatMap emits :=
  heard_foldl (·.heardFrom listener number) same emits_item wired

theorem heardAt_hearOne (other sender : Nat) (attention : Attention) (current : Network)
    (batch : Batch) :
    (hearOne other sender attention current batch).heardAt number =
      current.heardAt number ++
        if sender = number then ([batch].filter (!·.isEmpty)).map (other, ·) else [] := by
  cases isEmpty : batch.isEmpty with
  | true => simp [hearOne, isEmpty]
  | false =>
      rcases hearOne_of_not_isEmpty isEmpty other sender attention current with
        ⟨store, sight, heard⟩
      rw [heard]
      by_cases same : sender = number <;> simp [heardAt, List.filter_append, same, isEmpty]

theorem heardAt_hear (wired : network.SameWiring current) (other sender : Nat) (batch : Batch) :
    (current.hear other sender batch).heardAt number =
      current.heardAt number ++
        if sender = number then network.hearing sender batch (.listener other) else [] := by
  rw [hear, hearing, wired.listeners, wired.scene]
  cases network.listeners[other]? with
  | none => simp
  | some known =>
      refine (heard_foldl (·.heardAt number) (sameWiring_hearOne other sender known.attention)
        (fun said _ current _ => heardAt_hearOne other sender known.attention current said)
        (.refl current)).trans (congrArg _ ?_)
      split
      · rw [← List.map_flatMap, ← List.filter_flatMap, List.flatMap_singleton']
      · exact List.flatMap_eq_nil_iff.mpr fun _ _ => rfl

theorem filter_hearing (network : Network) (sender : Nat) (batch : Batch) (observer : Observer)
    (listener : Nat) :
    (network.hearing sender batch observer).filter (·.1 = listener) =
      if observer = .listener listener then network.hearing sender batch observer else [] := by
  cases observer with
  | index other => simp [hearing]
  | listener other =>
      rw [hearing]
      cases network.listeners[other]? with
      | none => simp
      | some known =>
          by_cases same : other = listener <;>
            simp [List.filter_map, same, Function.comp_def]

theorem hearing_listener (present : network.lives (.listener listener) = true)
    (notEmpty : batch.isEmpty = false) (noRename : batch.isRename = false) (sender : Nat) :
    network.hearing sender batch (.listener listener) = [(listener, batch)] := by
  rw [hearing]
  cases found : network.listeners[listener]? with
  | none =>
      rw [lives, found] at present
      contradiction
  | some known =>
      have alone : taken known.attention (network.scene sender) batch = [batch] := by
        rw [taken, batch.withoutRenames_of_not_isRename _ noRename, ite_self]
      simp [alone, notEmpty]

theorem heardFrom_hear_apart (apart : sender ≠ number) :
    (current.hear other sender batch).heardFrom listener number =
      current.heardFrom listener number := by
  rw [heardFrom_eq, heardAt_hear (.refl current), if_neg apart, List.append_nil, heardFrom_eq]

namespace Layered

theorem heardAt_sendThrough_of_rank_lt (layered : network.Layered rank)
    (above : rank number < rank sender) (wired : network.SameWiring current) (levels : Nat) :
    (sendThrough levels current sender batch).heardAt number = current.heardAt number := by
  induction levels generalizing current sender batch with
  | zero => simp [sendThrough]
  | succ levels induction =>
      have different : sender ≠ number := ne_of_apply_ne rank (Nat.ne_of_gt above)
      rw [sendThrough]
      split
      · rfl
      · rw [wired.liveObservers]
        refine heard_foldl_of_unheard (·.heardAt number)
          (sameWiring_tell (sameWiring_sendThrough levels) sender batch) ?_ wired
        intro observer observes current wired
        cases observer with
        | listener other =>
            refine (heardAt_hear wired other sender batch).trans ?_
            rw [if_neg different, List.append_nil]
        | index other =>
            have higher := layered.rank_liveObserver observes
            exact heard_foldl_of_unheard (·.heardAt number)
              (fun current response => sameWiring_sendThrough levels current other response)
              (fun _ _ _ wired => induction (Nat.lt_trans above higher) wired) wired

theorem heardAt_sendThrough_self (layered : network.Layered rank)
    (notEmpty : batch.isEmpty = false) (wired : network.SameWiring current) (levels : Nat) :
    (sendThrough (levels + 1) current number batch).heardAt number =
      current.heardAt number ++
        (network.liveObservers number).flatMap (network.hearing number batch) := by
  rw [sendThrough, notEmpty, if_neg Bool.false_ne_true, wired.liveObservers]
  refine heard_foldl (·.heardAt number)
    (sameWiring_tell (sameWiring_sendThrough levels) number batch) ?_ wired
  intro observer observes current wired
  cases observer with
  | listener other => exact (heardAt_hear wired other number batch).trans (by rw [if_pos rfl])
  | index other =>
      have higher := layered.rank_liveObserver observes
      rw [hearing, List.append_nil]
      exact heard_foldl_of_unheard (·.heardAt number)
        (fun current response => sameWiring_sendThrough levels current other response)
        (fun _ _ _ wired => layered.heardAt_sendThrough_of_rank_lt higher wired levels) wired

theorem heardFrom_sendThrough_self (layered : network.Layered rank)
    (listens : .listener listener ∈ network.liveObservers number)
    (notEmpty : batch.isEmpty = false) (noRename : batch.isRename = false)
    (wired : network.SameWiring current) (levels : Nat) :
    (sendThrough (levels + 1) current number batch).heardFrom listener number =
      current.heardFrom listener number ++ [batch] := by
  have live : network.lives (.listener listener) = true := (List.mem_filter.mp listens).2
  have once : (network.liveObservers number).flatMap
      (fun observer => (network.hearing number batch observer).filter (·.1 = listener)) =
        [(listener, batch)] := by
    rw [flatMap_of_once (layered.liveObservers_nodup number) listens, filter_hearing, if_pos rfl,
      hearing_listener live notEmpty noRename]
    intro other _ different
    rw [filter_hearing, if_neg different]
  rw [heardFrom_eq, layered.heardAt_sendThrough_self notEmpty wired, List.filter_append,
    List.filter_flatMap, once, List.map_append, heardFrom_eq, List.map_singleton]

theorem heardFrom_send_self (layered : network.Layered rank) (inside : number < network.levels)
    (listens : .listener listener ∈ network.liveObservers number)
    (noRename : batch.isRename = false) :
    (network.send number batch).heardFrom listener number =
      network.heardFrom listener number ++ if batch.isEmpty then [] else [batch] := by
  rcases exists_levels inside with ⟨levels, enough⟩
  rw [Network.send, enough]
  cases isEmpty : batch.isEmpty with
  | true => rw [sendThrough, isEmpty, if_pos rfl, if_pos rfl, List.append_nil]
  | false =>
      rw [if_neg Bool.false_ne_true]
      exact layered.heardFrom_sendThrough_self listens isEmpty noRename (.refl network) levels

theorem heardFrom_sendThrough (layered : network.Layered rank)
    (listens : .listener listener ∈ network.liveObservers number) {levels : Nat}
    (noRename : ∀ said ∈ network.sentThrough number levels sender batch, said.isRename = false)
    (wired : network.SameWiring current) :
    (sendThrough levels current sender batch).heardFrom listener number =
      current.heardFrom listener number ++ network.sentThrough number levels sender batch := by
  induction levels generalizing current sender batch with
  | zero => simp [sendThrough, sentThrough]
  | succ levels induction =>
      cases isEmpty : batch.isEmpty with
      | true => simp [sendThrough, sentThrough, isEmpty]
      | false =>
          by_cases here : sender = number
          · subst sender
            rw [layered.sentThrough_self, isEmpty] at noRename ⊢
            exact layered.heardFrom_sendThrough_self listens isEmpty
              (noRename batch (List.mem_singleton_self batch)) wired levels
          · rw [sendThrough, isEmpty, if_neg Bool.false_ne_true, wired.liveObservers]
            simp only [sentThrough, isEmpty, here, if_false, List.nil_append,
              Bool.false_eq_true] at noRename ⊢
            refine heardFrom_foldl (sameWiring_tell (sameWiring_sendThrough levels) sender batch)
              ?_ wired
            intro observer observes current wired
            cases observer with
            | listener other =>
                rw [sentOnTelling, List.append_nil]
                exact heardFrom_hear_apart here
            | index other =>
                rw [tell, wired.responses, sentOnTelling]
                refine heardFrom_foldl
                  (fun current response => sameWiring_sendThrough levels current other response)
                  ?_ wired
                intro response member current wired
                apply induction _ wired
                intro said isSaid
                exact noRename said (List.mem_flatMap.mpr ⟨.index other, observes,
                  List.mem_flatMap.mpr ⟨response, member, isSaid⟩⟩)

end Layered

end Hearing

end LayeredScene.Network
