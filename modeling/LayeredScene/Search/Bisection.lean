/-! # Bisection

Finding where a test stops holding in an ordered run of positions, by halving. Sample look-ups and
path exclusion both use it; on a run that holds up to some position and fails from there on, the
answer is that position.
-/

namespace LayeredScene

/-- The first position in `low ..< high` where `holds` fails, found by halving; `high` if it never
fails. The middle of a span is rounded down. -/
def bisect (holds : Nat → Bool) (low high : Nat) : Nat :=
  if low < high then
    let middle := low + (high - low) / 2
    if holds middle then bisect holds (middle + 1) high else bisect holds low middle
  else low
termination_by high - low

theorem bisect_bounds (holds : Nat → Bool) (low high : Nat) (ordered : low ≤ high) :
    low ≤ bisect holds low high ∧ bisect holds low high ≤ high := by
  fun_induction bisect holds low high with
  | case1 low high _ middle _ inductionHypothesis => have := inductionHypothesis (by omega); omega
  | case2 low high _ middle _ inductionHypothesis => have := inductionHypothesis (by omega); omega
  | case3 low high notLess => omega

theorem holds_of_bisect_eq {holds : Nat → Bool} {low high : Nat} (less : low < high)
    (atEnd : bisect holds low high = high) : holds (high - 1) = true := by
  fun_induction bisect holds low high with
  | case1 low high _ middle succeeds induction =>
      by_cases more : middle + 1 < high
      · exact induction more atEnd
      · have isLast : high - 1 = middle := by omega
        rw [isLast]
        exact succeeds
  | case2 low high _ middle fails induction =>
      have bounds := bisect_bounds holds low middle (by omega)
      omega
  | case3 low high notLess => contradiction

/-- Where the test, once it has failed, never holds again, the positions before the one found are
those where it holds. -/
theorem lt_bisect_iff {holds : Nat → Bool} {low high position : Nat}
    (downward : ∀ earlier later, earlier ≤ later → later < high →
      holds later = true → holds earlier = true)
    (above : low ≤ position) (below : position < high) :
    position < bisect holds low high ↔ holds position = true := by
  fun_induction bisect holds low high with
  | case1 low high less middle succeeds induction =>
      by_cases upper : middle < position
      · exact induction downward upper below
      · have bounds := bisect_bounds holds (middle + 1) high (by omega)
        have succeedsBefore := downward position middle (by omega) (by omega) succeeds
        exact iff_of_true (by omega) succeedsBefore
  | case2 low high less middle fails induction =>
      by_cases lower : position < middle
      · apply induction _ above lower
        intro earlier later ordered inside
        exact downward earlier later ordered (by omega)
      · have bounds := bisect_bounds holds low middle (by omega)
        apply iff_of_false (by omega)
        intro succeeds
        exact fails (downward middle position (by omega) below succeeds)
  | case3 low high notLess => omega

example : bisect (fun position => decide (position < 3)) 0 8 = 3 := by decide +kernel

end LayeredScene
