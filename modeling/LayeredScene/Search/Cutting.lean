import Mathlib.Tactic.Common

/-! # Cutting a list where a test stops holding

In a list where a test that has failed never holds again, cutting at the first failure separates
what passes the test from what fails it.
-/

namespace LayeredScene

variable {α : Type} {holds : α → Bool} {values : List α}

theorem takeWhile_eq_filter
    (downward : values.Pairwise fun earlier later => holds later = true → holds earlier = true) :
    values.takeWhile holds = values.filter holds := by
  induction values with
  | nil => rfl
  | cons value values induction =>
      have parts := List.pairwise_cons.mp downward
      cases test : holds value with
      | true =>
          rw [List.takeWhile_cons_of_pos test, List.filter_cons_of_pos test, induction parts.2]
      | false =>
          rw [List.takeWhile_cons_of_neg (by simp [test]), List.filter_cons_of_neg (by simp [test])]
          symm
          apply List.filter_eq_nil_iff.mpr
          intro later member succeeds
          rw [parts.1 later member succeeds] at test
          contradiction

theorem dropWhile_eq_filter
    (downward : values.Pairwise fun earlier later => holds later = true → holds earlier = true) :
    values.dropWhile holds = values.filter fun value => !holds value := by
  induction values with
  | nil => rfl
  | cons value values induction =>
      have parts := List.pairwise_cons.mp downward
      cases test : holds value with
      | true =>
          rw [List.dropWhile_cons_of_pos test, List.filter_cons_of_neg (by simp [test]),
            induction parts.2]
      | false =>
          rw [List.dropWhile_cons_of_neg (by simp [test]), List.filter_cons_of_pos (by simp [test])]
          congr 1
          symm
          apply List.filter_eq_self.mpr
          intro later member
          by_contra fails
          rw [parts.1 later member (by simpa using fails)] at test
          contradiction

theorem filter_append_filter_not
    (downward : values.Pairwise fun earlier later => holds later = true → holds earlier = true) :
    (values.filter holds ++ values.filter fun value => !holds value) = values := by
  rw [← takeWhile_eq_filter downward, ← dropWhile_eq_filter downward,
    List.takeWhile_append_dropWhile]

end LayeredScene
