import Mathlib.Tactic.Common

/-! # First and last mentions

Lists are united by putting at the end of the first whatever of the second is not there yet. Any
number of lists united in this way come to all their items in the order of first mention. The last
item of a sort is found from the other end.
-/

namespace LayeredScene

variable {α β : Type} [BEq α] {unite : List α → List α → List α}

theorem nodup_eraseDups [LawfulBEq α] (items : List α) : items.eraseDups.Nodup := by
  cases items with
  | nil => exact List.nodup_nil
  | cons first rest =>
      rw [List.eraseDups_cons]
      apply List.nodup_cons.mpr ⟨?_, nodup_eraseDups _⟩
      intro again
      simpa using List.mem_eraseDups.mp again
termination_by items.length
decreasing_by exact Nat.lt_succ_of_le (List.length_filter_le _ _)

/-- A function that puts items at the end of a list, one by one, unless they are there already. -/
structure Unites (unite : List α → List α → List α) : Prop where
  nil : ∀ seen, unite seen [] = seen
  cons : ∀ seen item rest, unite seen (item :: rest) =
    unite (if seen.contains item then seen else seen ++ [item]) rest

namespace Unites

theorem append (unites : Unites unite) (seen items more : List α) :
    unite (unite seen items) more = unite seen (items ++ more) := by
  induction items generalizing seen with
  | nil => rw [unites.nil, List.nil_append]
  | cons item items induction =>
      rw [unites.cons, induction, List.cons_append, unites.cons]

theorem foldl (unites : Unites unite) (items : β → List α) (parts : List β) (seen : List α) :
    parts.foldl (fun seen part => unite seen (items part)) seen =
      unite seen (parts.flatMap items) := by
  induction parts generalizing seen with
  | nil => exact (unites.nil seen).symm
  | cons part parts induction =>
      rw [List.foldl_cons, induction, unites.append, List.flatMap_cons]

theorem contains_unite [LawfulBEq α] (unites : Unites unite) {item : α} (seen items : List α) :
    (unite seen items).contains item = (seen.contains item || items.contains item) := by
  induction items generalizing seen with
  | nil => rw [unites.nil, List.contains_nil, Bool.or_false]
  | cons first items induction =>
      rw [unites.cons, induction, List.contains_cons, ← Bool.or_assoc]
      congr 1
      cases present : seen.contains first with
      | true =>
          by_cases same : item = first
          · rw [if_pos rfl, same, present, Bool.true_or]
          · rw [if_pos rfl, beq_eq_false_iff_ne.mpr same, Bool.or_false]
      | false =>
          rw [if_neg Bool.false_ne_true, List.contains_append, List.contains_cons, List.contains_nil,
            Bool.or_false]

theorem assoc [LawfulBEq α] (unites : Unites unite) (seen apart items : List α) :
    unite seen (unite apart items) = unite (unite seen apart) items := by
  induction items generalizing apart with
  | nil => rw [unites.nil, unites.nil]
  | cons item items induction =>
      rw [unites.cons, unites.cons, induction]
      congr 1
      cases present : apart.contains item with
      | true => rw [if_pos rfl, unites.contains_unite, present, Bool.or_true, if_pos rfl]
      | false => rw [if_neg Bool.false_ne_true, ← unites.append, unites.cons, unites.nil]

theorem eq_eraseDups [LawfulBEq α] (unites : Unites unite) (items : List α) :
    unite [] items = items.eraseDups := by
  have grows : ∀ seen, seen.eraseDups = seen → unite seen items = (seen ++ items).eraseDups := by
    induction items with
    | nil =>
        intro seen once
        rw [unites.nil, List.append_nil, once]
    | cons item items induction =>
        intro seen once
        rw [unites.cons]
        cases present : seen.contains item with
        | true =>
            have known : (item :: items).removeAll seen = items.removeAll seen := by
              simp [List.removeAll, List.contains_iff_mem.mp present]
            rw [if_pos rfl, induction seen once, List.eraseDups_append, List.eraseDups_append, known]
        | false =>
            have isNew : [item].removeAll seen = [item] := by
              rw [List.removeAll, List.filter_cons_of_pos (by rw [List.elem_eq_contains, present]; rfl)]
              rfl
            have stillOnce : (seen ++ [item]).eraseDups = seen ++ [item] := by
              rw [List.eraseDups_append, once, isNew]
              rfl
            rw [if_neg Bool.false_ne_true, induction _ stillOnce, List.append_assoc,
              List.singleton_append]
  exact grows [] rfl

end Unites

theorem find?_reverse_concat {γ : Type} (test : γ → Bool) (items : List γ) (item : γ) :
    (items ++ [item]).reverse.find? test =
      if test item then some item else items.reverse.find? test := by
  rw [List.reverse_append, List.reverse_singleton, List.singleton_append, List.find?_cons]
  cases test item <;> rfl

end LayeredScene
