import Mathlib.Data.Prod.Lex

/-! # The order of times

Single precision numbers are ordered by rank: infinities at both ends, the two zeros in one place in
the middle, and between them by exponent and then by mantissa. A time that is no number has no rank,
and is ordered against no other.
-/

namespace LayeredScene.TimeOrder

open Float.Model

/-! ## Ranks -/

abbrev Rank := ℤ ×ₗ ℤ ×ₗ ℤ

def rankAt (side exponent mantissa : ℤ) : Rank := toLex (side, toLex (exponent, mantissa))

def rankOf : UnpackedFloat → Rank
  | .infinity .negative => rankAt (-2) 0 0
  | .finite .negative mantissa exponent _ => rankAt (-1) (-exponent) (-mantissa)
  | .finite .positive mantissa exponent _ => rankAt 1 exponent mantissa
  | .infinity .positive => rankAt 2 0 0
  | _ => rankAt 0 0 0

theorem compare_rankAt (side exponent mantissa otherSide otherExponent otherMantissa : ℤ) :
    compare (rankAt side exponent mantissa) (rankAt otherSide otherExponent otherMantissa) =
      (compare side otherSide).then
        ((compare exponent otherExponent).then (compare mantissa otherMantissa)) := rfl

theorem rankAt_lt_iff {side exponent mantissa otherSide otherExponent otherMantissa : ℤ} :
    rankAt side exponent mantissa < rankAt otherSide otherExponent otherMantissa ↔
      side < otherSide ∨ side = otherSide ∧
        (exponent < otherExponent ∨ exponent = otherExponent ∧ mantissa < otherMantissa) := by
  rw [rankAt, rankAt, Prod.Lex.toLex_lt_toLex, Prod.Lex.toLex_lt_toLex]

theorem compare_natCast (number other : ℕ) :
    compare (number : ℤ) (other : ℤ) = compare number other := by
  rcases lt_trichotomy number other with before | rfl | after
  · rw [compare_lt_iff_lt.mpr before, compare_lt_iff_lt]
    omega
  · rw [Std.ReflOrd.compare_self, Std.ReflOrd.compare_self]
  · rw [compare_gt_iff_gt.mpr after, compare_gt_iff_gt]
    omega

theorem compare_neg (number other : ℤ) : compare (-number) (-other) = compare other number := by
  rcases lt_trichotomy other number with before | rfl | after
  · rw [compare_lt_iff_lt.mpr before, compare_lt_iff_lt]
    omega
  · rw [Std.ReflOrd.compare_self, Std.ReflOrd.compare_self]
  · rw [compare_gt_iff_gt.mpr after, compare_gt_iff_gt]
    omega

theorem compare_of_number {number other : UnpackedFloat} (isNumber : number ≠ .notANumber)
    (otherIsNumber : other ≠ .notANumber) :
    number.compare other = some (compare (rankOf number) (rankOf other)) := by
  -- the sides settle all but two finite numbers on the same side of zero
  rcases number with sign | _ | sign | ⟨sign, mantissa, exponent, _⟩ <;>
    rcases other with otherSign | _ | otherSign | ⟨otherSign, otherMantissa, otherExponent, _⟩ <;>
    try cases sign <;> try cases otherSign
  case finite.finite.negative.negative =>
    change some ((compare exponent otherExponent).then (compare mantissa otherMantissa)).swap =
      some (compare (rankAt (-1) (-exponent) (-mantissa))
        (rankAt (-1) (-otherExponent) (-otherMantissa)))
    rw [compare_rankAt, compare_neg exponent, compare_neg mantissa, compare_natCast,
      Ordering.swap_then, ← Std.OrientedOrd.eq_swap, ← Std.OrientedOrd.eq_swap]
    rfl
  case finite.finite.positive.positive =>
    change some ((compare exponent otherExponent).then (compare mantissa otherMantissa)) =
      some (compare (rankAt 1 exponent mantissa) (rankAt 1 otherExponent otherMantissa))
    rw [compare_rankAt, compare_natCast]
    rfl
  all_goals first | rfl | contradiction

theorem beq_some_eq_any (found : Option Ordering) (ordering : Ordering) :
    (found == some ordering) = found.any (· == ordering) := by
  cases found <;> rfl

theorem any_compare_iff {number other : UnpackedFloat} (test : Ordering → Bool) :
    (number.compare other).any test = true ↔
      number ≠ .notANumber ∧ other ≠ .notANumber ∧
        test (compare (rankOf number) (rankOf other)) = true := by
  by_cases isNaN : number = .notANumber
  · rw [isNaN]
    exact iff_of_false Bool.false_ne_true fun given => given.1 rfl
  · by_cases otherIsNaN : other = .notANumber
    · have nothing : number.compare other = none := by
        rw [otherIsNaN]
        cases number <;> rfl
      rw [nothing]
      exact iff_of_false Bool.false_ne_true fun given => given.2.1 otherIsNaN
    · rw [compare_of_number isNaN otherIsNaN, Option.any_some]
      exact ⟨fun holds => ⟨isNaN, otherIsNaN, holds⟩, fun given => given.2.2⟩

/-! ## Times -/

def IsNumber (time : Float32) : Prop := time.toModel.unpack ≠ .notANumber

def rank (time : Float32) : Rank := rankOf time.toModel.unpack

variable {time other third : Float32}

theorem any_compare (test : Ordering → Bool) :
    (time.toModel.unpack.compare other.toModel.unpack).any test = true ↔
      IsNumber time ∧ IsNumber other ∧ test (compare (rank time) (rank other)) = true :=
  any_compare_iff test

theorem lt_iff : time < other ↔ IsNumber time ∧ IsNumber other ∧ rank time < rank other := by
  have byModel : time < other ↔
      (time.toModel.unpack.compare other.toModel.unpack).any (· == .lt) = true := by
    change decide (time.toModel < other.toModel) = true ↔ _
    rw [decide_eq_true_iff]
    exact Bool.eq_iff_iff.mp (beq_some_eq_any _ .lt)
  rw [byModel, any_compare, beq_iff_eq, compare_lt_iff_lt]

theorem le_iff : time ≤ other ↔ IsNumber time ∧ IsNumber other ∧ rank time ≤ rank other := by
  have byModel : time ≤ other ↔
      (time.toModel.unpack.compare other.toModel.unpack).any (·.isLE) = true := by
    change decide (time.toModel ≤ other.toModel) = true ↔ _
    rw [decide_eq_true_iff]
    rfl
  rw [byModel, any_compare, ← Ordering.ne_gt_iff_isLE, ← compare_le_iff_le]

theorem beq_iff : (time == other) = true ↔ time ≤ other ∧ other ≤ time := by
  have byModel : (time == other) =
      (time.toModel.unpack.compare other.toModel.unpack).any (· == .eq) :=
    beq_some_eq_any _ .eq
  rw [byModel, any_compare, beq_iff_eq, compare_eq_iff_eq, le_iff, le_iff, le_antisymm_iff]
  tauto

theorem lt_trans (before : time < other) (after : other < third) : time < third := by
  rw [lt_iff] at before after ⊢
  exact ⟨before.1, after.2.1, before.2.2.trans after.2.2⟩

theorem lt_of_lt_of_le (before : time < other) (after : other ≤ third) : time < third := by
  rw [lt_iff] at before ⊢
  rw [le_iff] at after
  exact ⟨before.1, after.2.1, before.2.2.trans_le after.2.2⟩

theorem lt_of_le_of_lt (before : time ≤ other) (after : other < third) : time < third := by
  rw [lt_iff] at after ⊢
  rw [le_iff] at before
  exact ⟨before.1, after.2.1, before.2.2.trans_lt after.2.2⟩

theorem le_of_lt (before : time < other) : time ≤ other := by
  rw [lt_iff] at before
  exact le_iff.mpr ⟨before.1, before.2.1, before.2.2.le⟩

theorem not_le_of_lt (before : time < other) : ¬other ≤ time := by
  intro after
  rw [lt_iff] at before
  rw [le_iff] at after
  exact (before.2.2.trans_le after.2.2).false

theorem le_trans (before : time ≤ other) (after : other ≤ third) : time ≤ third := by
  rw [le_iff] at before after ⊢
  exact ⟨before.1, after.2.1, before.2.2.trans after.2.2⟩

theorem not_lt_iff (isNumber : IsNumber time) (otherIsNumber : IsNumber other) :
    ¬time < other ↔ other ≤ time := by
  rw [lt_iff, le_iff]
  simp [isNumber, otherIsNumber]

theorem not_le_iff (isNumber : IsNumber time) (otherIsNumber : IsNumber other) :
    ¬time ≤ other ↔ other < time := by
  rw [lt_iff, le_iff]
  simp [isNumber, otherIsNumber]

theorem areNumbers_of_le {times : List Float32} {border : Float32}
    (bounded : ∀ time ∈ times, time ≤ border) : ∀ time ∈ times, IsNumber time :=
  fun time member => (le_iff.mp (bounded time member)).1

theorem le_refl (isNumber : IsNumber time) : time ≤ time :=
  le_iff.mpr ⟨isNumber, isNumber, le_rfl⟩

end LayeredScene.TimeOrder
