import LayeredScene.Search.FirstMention
import Mathlib.Data.List.Induction

/-! # Calls about what is merged

A merging index is called to merge one more index, or one less. The calls say what it merges, where
an index can be there several times, and which call about an index was the last. An index that was
let join last is merged. One that was let leave last can be merged still, unless none was ever
merged twice at a time.
-/

namespace LayeredScene

inductive InputCall
  | join (number input : Nat)
  | leave (number input : Nat)
deriving DecidableEq

namespace InputCall

def number : InputCall → Nat
  | .join number _ => number
  | .leave number _ => number

def input : InputCall → Nat
  | .join _ input => input
  | .leave _ input => input

def applied (inputs : List Nat) : InputCall → List Nat
  | .join _ input => inputs ++ [input]
  | .leave _ input => inputs.erase input

def merged (number : Nat) (calls : List InputCall) : List Nat :=
  (calls.filter (·.number = number)).foldl applied []

def last? (number input : Nat) (calls : List InputCall) : Option InputCall :=
  calls.reverse.find? fun call => call.number = number ∧ call.input = input

variable {number input : Nat} {calls : List InputCall} {call : InputCall}

theorem merged_concat (number : Nat) (calls : List InputCall) (call : InputCall) :
    merged number (calls ++ [call]) =
      if call.number = number then applied (merged number calls) call else merged number calls := by
  by_cases isNumber : call.number = number <;> simp [merged, isNumber]

theorem last?_concat (number input : Nat) (calls : List InputCall) (call : InputCall) :
    last? number input (calls ++ [call]) =
      if call.number = number ∧ call.input = input then some call
      else last? number input calls := by
  simp only [last?, find?_reverse_concat, decide_eq_true_eq]

theorem eq_join_or_eq_leave (isAbout : call.number = number ∧ call.input = input) :
    call = .join number input ∨ call = .leave number input := by
  rcases isAbout with ⟨rfl, rfl⟩
  cases call with
  | join => exact .inl rfl
  | leave => exact .inr rfl

theorem mem_merged_concat_of_other (isOther : ¬(call.number = number ∧ call.input = input)) :
    input ∈ merged number (calls ++ [call]) ↔ input ∈ merged number calls := by
  rw [merged_concat]
  split
  · rename_i isNumber
    have different : input ≠ call.input := fun same => isOther ⟨isNumber, same.symm⟩
    cases call with
    | join _ added =>
        exact List.mem_append.trans (or_iff_left (List.mem_singleton.not.mpr different))
    | leave _ gone => exact List.mem_erase_of_ne different
  · exact Iff.rfl

theorem mem_merged_of_joined (joined : last? number input calls = some (.join number input)) :
    input ∈ merged number calls := by
  induction calls using List.reverseRecOn with
  | nil => cases joined
  | append_singleton calls call induction =>
      rw [last?_concat] at joined
      split at joined
      · cases joined
        rw [merged_concat, InputCall.number, if_pos rfl]
        exact List.mem_append_right _ (List.mem_singleton_self input)
      · rename_i isOther
        exact (mem_merged_concat_of_other isOther).mpr (induction joined)

theorem not_mem_merged_of_none (never : last? number input calls = none) :
    input ∉ merged number calls := by
  induction calls using List.reverseRecOn with
  | nil => exact List.not_mem_nil
  | append_singleton calls call induction =>
      rw [last?_concat] at never
      split at never
      · cases never
      · rename_i isOther
        rw [mem_merged_concat_of_other isOther]
        exact induction never

theorem not_mem_merged_of_left (left : last? number input calls = some (.leave number input))
    (once : ∀ earlier, earlier <+: calls → (merged number earlier).Nodup) :
    input ∉ merged number calls := by
  induction calls using List.reverseRecOn with
  | nil => cases left
  | append_singleton calls call induction =>
      have onceBefore := once calls (List.prefix_append calls [call])
      rw [last?_concat] at left
      split at left
      · cases left
        rw [merged_concat, InputCall.number, if_pos rfl]
        exact onceBefore.not_mem_erase
      · rename_i isOther
        rw [mem_merged_concat_of_other isOther]
        exact induction left fun earlier isEarlier =>
          once earlier (isEarlier.trans (List.prefix_append calls [call]))

theorem joined_iff : last? number input calls = some (.join number input) ↔
    input ∈ merged number calls ∧ last? number input calls ≠ some (.leave number input) := by
  constructor
  · intro joined
    refine ⟨mem_merged_of_joined joined, ?_⟩
    rw [joined]
    simp
  · intro given
    cases last : last? number input calls with
    | none => exact absurd given.1 (not_mem_merged_of_none last)
    | some call =>
        rw [last?] at last
        have isAbout := of_decide_eq_true (List.find?_some last :)
        rcases eq_join_or_eq_leave isAbout with rfl | rfl
        · rfl
        · exact absurd last given.2

end InputCall

end LayeredScene
