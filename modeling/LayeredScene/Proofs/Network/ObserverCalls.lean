import LayeredScene.Proofs.Network.Living
import LayeredScene.Search.FirstMention
import Mathlib.Data.List.DropRight
import Mathlib.Data.List.Induction

/-! # Calls to a list of observers

An observer is put on a list by one call and taken off it by another. Where it stands is decided by
the first call that adds it after it was last taken off: later ones find it there. Calls about
others do not move it, and neither does anybody's end, which only leaves a gap.
-/

namespace LayeredScene

inductive ObserverCall (α : Type)
  | add (observer : α)
  | remove (observer : α)
deriving DecidableEq

namespace ObserverCall

section Calls

variable {α : Type} [DecidableEq α] {observer : α} {calls : List (ObserverCall α)}
variable {call : ObserverCall α}

/-- The last call that is about an observer. Calls without effect count too, and change nothing:
one who is there already was added last, and one who is not there was not. -/
def last? (observer : α) (calls : List (ObserverCall α)) : Option (ObserverCall α) :=
  calls.reverse.find? fun call => call = .add observer ∨ call = .remove observer

def sinceRemoved (observer : α) (calls : List (ObserverCall α)) : List (ObserverCall α) :=
  calls.rtakeWhile (· ≠ .remove observer)

/-- The position of the first call that adds an observer since it was last taken off. -/
def addedAt (observer : α) (calls : List (ObserverCall α)) : Nat :=
  calls.length - (sinceRemoved observer calls).length +
    (sinceRemoved observer calls).idxOf (.add observer)

theorem last?_concat (observer : α) (calls : List (ObserverCall α)) (call : ObserverCall α) :
    last? observer (calls ++ [call]) =
      if call = .add observer ∨ call = .remove observer then some call
      else last? observer calls := by
  simp only [last?, find?_reverse_concat, decide_eq_true_eq]

theorem added_concat : last? observer (calls ++ [call]) = some (.add observer) ↔
    call = .add observer ∨
      call ≠ .remove observer ∧ last? observer calls = some (.add observer) := by
  rw [last?_concat]
  split
  · rename_i isAbout
    rcases isAbout with rfl | rfl <;> simp
  · rename_i isOther
    have parts := not_or.mp isOther
    simp [parts.1, parts.2]

theorem sinceRemoved_concat (notRemoved : call ≠ .remove observer) :
    sinceRemoved observer (calls ++ [call]) = sinceRemoved observer calls ++ [call] :=
  List.rtakeWhile_concat_pos _ calls call (decide_eq_true notRemoved)

theorem sinceRemoved_concat_remove (observer : α) (calls : List (ObserverCall α)) :
    sinceRemoved observer (calls ++ [.remove observer]) = [] :=
  List.rtakeWhile_concat_neg _ calls _ (by simp)

theorem added_iff_mem_sinceRemoved : last? observer calls = some (.add observer) ↔
    .add observer ∈ sinceRemoved observer calls := by
  induction calls using List.reverseRecOn with
  | nil => simp [last?, sinceRemoved]
  | append_singleton calls call induction =>
      rw [added_concat]
      by_cases removed : call = .remove observer
      · rw [removed, sinceRemoved_concat_remove]
        simp
      · rw [sinceRemoved_concat removed, List.mem_append, List.mem_singleton, ← induction,
          and_iff_right removed, or_comm, eq_comm (a := call)]

theorem mem_of_added (added : last? observer calls = some (.add observer)) :
    .add observer ∈ calls :=
  List.mem_reverse.mp (List.mem_of_find?_eq_some added)

theorem length_sinceRemoved_le (observer : α) (calls : List (ObserverCall α)) :
    (sinceRemoved observer calls).length ≤ calls.length :=
  (List.rtakeWhile_suffix _ calls).length_le

theorem addedAt_lt_length (added : last? observer calls = some (.add observer)) :
    addedAt observer calls < calls.length := by
  have inside := List.idxOf_lt_length_iff.mpr (added_iff_mem_sinceRemoved.mp added)
  have shorter := length_sinceRemoved_le observer calls
  rw [addedAt]
  omega

theorem addedAt_concat_of_added (added : last? observer calls = some (.add observer))
    (notRemoved : call ≠ .remove observer) :
    addedAt observer (calls ++ [call]) = addedAt observer calls := by
  have member := added_iff_mem_sinceRemoved.mp added
  have shorter := length_sinceRemoved_le observer calls
  rw [addedAt, sinceRemoved_concat notRemoved, List.idxOf_append_of_mem member,
    List.length_append, List.length_append, addedAt]
  omega

theorem addedAt_concat_add (notAdded : last? observer calls ≠ some (.add observer)) :
    addedAt observer (calls ++ [.add observer]) = calls.length := by
  have notMember := mt added_iff_mem_sinceRemoved.mpr notAdded
  have shorter := length_sinceRemoved_le observer calls
  rw [addedAt, sinceRemoved_concat (by simp), List.idxOf_append_of_notMem notMember,
    List.length_append, List.length_append, List.length_singleton, List.idxOf_cons_self]
  omega

/-- One that comes again, and one that comes back after it was taken off. -/
example : addedAt 'a' [.add 'a', .add 'b', .add 'a'] = 0 ∧
    addedAt 'a' [.add 'a', .add 'b', .remove 'a', .add 'a', .add 'a'] = 3 := by decide

end Calls

end ObserverCall

namespace Observers

open ObserverCall (last? addedAt)

variable {α : Type} [DecidableEq α] {observers : Observers α} {lives : α → Bool}
variable {calls : List (ObserverCall α)}

/-- A list is what the calls to it say: nobody is on it twice or was never added, of those who live
there are just those who were added last, and these stand in the order in which they were added. -/
structure Follows (observers : Observers α) (lives : α → Bool) (calls : List (ObserverCall α)) :
    Prop where
  once : observers.registered.Nodup
  known : ∀ observer ∈ observers.registered, .add observer ∈ calls
  listed : ∀ observer, lives observer = true →
    (observer ∈ observers.registered ↔ last? observer calls = some (.add observer))
  inOrder : (observers.live lives).Pairwise fun earlier later =>
    addedAt earlier calls < addedAt later calls

namespace Follows

theorem none (lives : α → Bool) : Follows .none lives [] where
  once := List.nodup_nil
  known observer member := absurd member List.not_mem_nil
  listed observer live := by simp [Observers.none, last?]
  inOrder := .nil

theorem mem_live_iff (follows : observers.Follows lives calls) (observer : α) :
    observer ∈ observers.live lives ↔
      lives observer = true ∧ last? observer calls = some (.add observer) := by
  rw [live, List.mem_filter, and_comm]
  exact and_congr_right (follows.listed observer)

theorem added_of_mem_live (follows : observers.Follows lives calls) {observer : α}
    (member : observer ∈ observers.live lives) : last? observer calls = some (.add observer) :=
  ((follows.mem_live_iff observer).mp member).2

theorem inOrder_concat (follows : observers.Follows lives calls) {kept : List α}
    (sublist : kept.Sublist (observers.live lives)) (call : ObserverCall α)
    (notRemoved : ∀ observer ∈ kept, call ≠ .remove observer) :
    kept.Pairwise fun earlier later =>
      addedAt earlier (calls ++ [call]) < addedAt later (calls ++ [call]) := by
  have stays : ∀ observer ∈ kept,
      addedAt observer (calls ++ [call]) = addedAt observer calls := fun observer member =>
    ObserverCall.addedAt_concat_of_added (follows.added_of_mem_live (sublist.subset member))
      (notRemoved observer member)
  refine (follows.inOrder.sublist sublist).imp_of_mem ?_
  intro earlier later isEarlier isLater less
  rw [stays earlier isEarlier, stays later isLater]
  exact less

theorem add (follows : observers.Follows lives calls) (observer : α) :
    (observers.add lives observer).Follows lives (calls ++ [.add observer]) where
  once := nodup_add follows.once
  known other member := by
    rcases mem_or_eq_of_mem_add member with old | rfl
    · exact List.mem_append_left _ (follows.known other old)
    · exact List.mem_append_right _ (List.mem_singleton_self _)
  listed other live := by
    rw [mem_add_iff fun _ => live, ObserverCall.added_concat, follows.listed other live, or_comm]
    simp [eq_comm]
  inOrder := by
    have stillLive : (observers.live lives).filter lives = observers.live lives := by simp [live]
    have before := follows.inOrder_concat (List.Sublist.refl _) (.add observer)
      fun _ _ => by simp
    rw [live, Observers.add]
    split
    · rw [stillLive]
      exact before
    · rename_i absent
      rw [List.contains_iff_mem] at absent
      rw [List.filter_append, stillLive]
      cases isLive : lives observer with
      | false => simpa [isLive] using before
      | true =>
          have notAdded : last? observer calls ≠ some (.add observer) := fun added =>
            absent ((follows.mem_live_iff observer).mpr ⟨isLive, added⟩)
          rw [List.filter_singleton, isLive]
          refine List.pairwise_append.mpr ⟨before, List.pairwise_singleton _ _, ?_⟩
          intro earlier isEarlier later isLast
          have added := follows.added_of_mem_live isEarlier
          rw [List.mem_singleton.mp isLast, ObserverCall.addedAt_concat_add notAdded,
            ObserverCall.addedAt_concat_of_added added (by simp)]
          exact ObserverCall.addedAt_lt_length added

theorem remove (follows : observers.Follows lives calls) (observer : α) :
    (observers.remove lives observer).Follows lives (calls ++ [.remove observer]) where
  once := nodup_remove follows.once
  known other member :=
    List.mem_append_left _ (follows.known other (mem_of_mem_remove member).1)
  listed other live := by
    rw [mem_remove_iff fun _ => live, ObserverCall.added_concat, follows.listed other live,
      and_comm]
    simp [eq_comm]
  inOrder := by
    refine follows.inOrder_concat (List.filter_sublist.trans List.filter_sublist) _ ?_
    intro other member isRemoved
    have different := (mem_of_mem_remove (List.mem_filter.mp member).1).2
    exact different (ObserverCall.remove.inj isRemoved).symm

theorem fade (follows : observers.Follows lives calls) {still : α → Bool}
    (gone : ∀ observer, .add observer ∈ calls → still observer = true → lives observer = true) :
    observers.Follows still calls where
  once := follows.once
  known := follows.known
  listed observer live := by
    constructor
    · intro member
      have known := follows.known observer member
      exact (follows.listed observer (gone observer known live)).mp member
    · intro added
      have known := ObserverCall.mem_of_added added
      exact (follows.listed observer (gone observer known live)).mpr added
  inOrder := by
    have inOrder := follows.inOrder
    rw [live, List.pairwise_filter] at inOrder ⊢
    refine inOrder.imp_of_mem ?_
    intro earlier later isEarlier isLater less earlierStill laterStill
    exact less (gone earlier (follows.known earlier isEarlier) earlierStill)
      (gone later (follows.known later isLater) laterStill)

end Follows

end Observers

end LayeredScene
