import LayeredScene.TimeSamples.Basic
import LayeredScene.TimeSamples.Order

/-! # Values along samples

The value at a time is found by halving, which is the same as going along the samples until the next
one is later than the time. Samples before one that is no later than the time, and samples after one
that is no earlier, make no difference to it.
-/

namespace LayeredScene.TimeSamples

open TimeOrder

variable {α : Type} {array : TimeSamples α} {samples earlier later : List (Float32 × α)}
variable {sample : Float32 × α} {time : Float32}

def Increasing (samples : List (Float32 × α)) : Prop :=
  samples.Pairwise fun sample next => sample.1 < next.1

theorem startsBy_getElem {samples : Array (Float32 × α)} {position : Nat}
    (inside : position < samples.size) :
    startsBy samples time position = true ↔ samples[position].1 ≤ time := by
  rw [startsBy, Array.getElem?_eq_getElem inside]
  exact decide_eq_true_iff

theorem Increasing.startsBy_downward {samples : Array (Float32 × α)}
    (increasing : Increasing samples.toList) {first second : Nat} (ordered : first ≤ second)
    (inside : second < samples.size) (starts : startsBy samples time second = true) :
    startsBy samples time first = true := by
  rcases Nat.lt_or_eq_of_le ordered with less | rfl
  · have firstInside : first < samples.size := Nat.lt_trans less inside
    have before := List.pairwise_iff_getElem.mp increasing first second
      (by simpa using firstInside) (by simpa using inside) less
    rw [startsBy_getElem inside] at starts
    rw [startsBy_getElem firstInside]
    exact le_of_lt (lt_of_lt_of_le before starts)
  · exact starts

theorem Increasing.lt_bisect_startsBy_iff {samples : Array (Float32 × α)}
    (increasing : Increasing samples.toList) {position : ℕ} (inside : position < samples.size) :
    position < bisect (startsBy samples time) 0 samples.size ↔ samples[position].1 ≤ time := by
  rw [← startsBy_getElem inside]
  exact lt_bisect_iff
    (fun _ _ ordered inside starts => increasing.startsBy_downward ordered inside starts)
    (Nat.zero_le position) inside

theorem toList_eq_take_append_drop {samples : Array (Float32 × α)} {position : Nat}
    (inside : position < samples.size) :
    samples.toList = samples.toList.take position ++
      samples[position] :: samples.toList.drop (position + 1) := by
  rw [← Array.getElem_toList, ← List.drop_eq_getElem_cons, List.take_append_drop]

theorem exists_floor (increasing : Increasing array.samples.toList)
    (notEmpty : 0 < array.samples.size) (begun : array.samples[0].1 ≤ time) :
    ∃ earlier sample later, array.samples.toList = earlier ++ sample :: later ∧
      earlier.length = array.floorIndex time ∧ sample.1 ≤ time ∧
      ∀ next ∈ later, ¬next.1 ≤ time := by
  have started := (increasing.lt_bisect_startsBy_iff notEmpty).mpr begun
  have inside := array.floorIndex_lt time notEmpty
  have isFloor : bisect (startsBy array.samples time) 0 array.samples.size =
      array.floorIndex time + 1 := by
    rw [floorIndex]
    omega
  have counted : ∀ position (inside : position < array.samples.size),
      position < array.floorIndex time + 1 ↔ array.samples[position].1 ≤ time := by
    rw [← isFloor]
    exact fun _ inside => increasing.lt_bisect_startsBy_iff inside
  refine ⟨array.samples.toList.take (array.floorIndex time), array.samples[array.floorIndex time],
    array.samples.toList.drop (array.floorIndex time + 1), toList_eq_take_append_drop inside,
    ?_, ?_, ?_⟩
  · simpa using inside.le
  · exact (counted _ inside).mp (Nat.lt_succ_self _)
  · intro next member
    rcases List.mem_iff_getElem.mp member with ⟨offset, bound, rfl⟩
    simp only [List.length_drop, Array.length_toList] at bound
    rw [List.getElem_drop, Array.getElem_toList, ← counted _ (by omega)]
    omega

section Values

variable [Inhabited α] [Blend α]

/-- The value at a time, found by going along the samples. -/
def valueAlong (time : Float32) : List (Float32 × α) → α
  | [] => default
  | [(_, value)] => value
  | (start, value) :: (finish, next) :: rest =>
      if time ≤ start then value
      else if finish ≤ time then valueAlong time ((finish, next) :: rest)
      else Blend.blend value next (progress time start finish)

theorem valueAlong_append_cons (increasing : Increasing (earlier ++ sample :: later))
    (begun : sample.1 ≤ time) :
    valueAlong time (earlier ++ sample :: later) = valueAlong time (sample :: later) := by
  induction earlier with
  | nil => rfl
  | cons first earlier induction =>
      have parts := List.pairwise_cons.mp increasing
      rw [← induction parts.2]
      have firstBefore := parts.1 sample (by simp)
      have notYet := not_le_of_lt (lt_of_lt_of_le firstBefore begun)
      cases earlier with
      | nil =>
          rw [List.nil_append, List.cons_append, List.nil_append]
          rw [valueAlong, if_neg notYet, if_pos begun]
      | cons second earlier =>
          have secondBefore := (List.pairwise_cons.mp parts.2).1 sample (by simp)
          rw [List.cons_append, List.cons_append, valueAlong, if_neg notYet,
            if_pos (le_of_lt (lt_of_lt_of_le secondBefore begun))]

theorem valueAlong_append_singleton (reached : time ≤ sample.1) :
    valueAlong time (earlier ++ sample :: later) = valueAlong time (earlier ++ [sample]) := by
  induction earlier with
  | nil =>
      cases later with
      | nil => rfl
      | cons next later => exact if_pos reached
  | cons first earlier induction =>
      cases earlier with
      | nil =>
          simp only [List.nil_append] at induction
          simp only [List.cons_append, List.nil_append, valueAlong, induction]
      | cons second earlier =>
          simp only [List.cons_append] at induction
          simp only [List.cons_append, valueAlong, induction]

theorem valueAlong_between {next : Float32 × α}
    (increasing : Increasing (earlier ++ sample :: next :: later))
    (begun : sample.1 ≤ time) (notReached : ¬next.1 ≤ time) :
    valueAlong time (earlier ++ sample :: next :: later) =
      if time == sample.1 || decide (next.1 ≤ sample.1) then sample.2
      else Blend.blend sample.2 next.2 (progress time sample.1 next.1) := by
  have before : sample.1 < next.1 :=
    (List.pairwise_cons.mp (List.pairwise_append.mp increasing).2.1).1 next List.mem_cons_self
  rw [valueAlong_append_cons increasing begun, valueAlong, if_neg notReached,
    decide_eq_false (not_le_of_lt before), Bool.or_false]
  by_cases atSample : time ≤ sample.1
  · rw [if_pos atSample, if_pos (beq_iff.mpr ⟨atSample, begun⟩)]
  · rw [if_neg atSample, if_neg fun same => atSample (beq_iff.mp same).1]

theorem exists_neighbours (increasing : Increasing array.samples.toList)
    (notEmpty : 0 < array.samples.size) (begun : array.samples[0].1 ≤ time)
    (notEnded : ¬array.samples[array.samples.size - 1].1 ≤ time) :
    ∃ sample next, array.samples[array.floorIndex time]? = some sample ∧
      array.samples[array.floorIndex time + 1]? = some next ∧
      valueAlong time array.samples.toList =
        if time == sample.1 || decide (next.1 ≤ sample.1) then sample.2
        else Blend.blend sample.2 next.2 (progress time sample.1 next.1) := by
  rcases exists_floor increasing notEmpty begun with
    ⟨earlier, sample, later, cut, length, starts, beyond⟩
  have counted := congrArg List.length cut
  simp only [Array.length_toList, List.length_append, List.length_cons] at counted
  cases later with
  | nil =>
      simp only [List.length_nil] at counted
      have isLast : array.samples[array.samples.size - 1] = sample := by
        have last := congrArg (·[array.samples.size - 1]?) cut
        simpa [counted] using last
      rw [isLast] at notEnded
      exact absurd starts notEnded
  | cons next later =>
      refine ⟨sample, next, ?_, ?_, ?_⟩
      · rw [← length, ← Array.getElem?_toList, cut]
        simp
      · rw [← length, ← Array.getElem?_toList, cut]
        simp
      · rw [cut] at increasing ⊢
        exact valueAlong_between increasing starts (beyond next List.mem_cons_self)

theorem sample?_eq_valueAlong (increasing : Increasing array.samples.toList)
    (areNumbers : ∀ sample ∈ array.samples.toList, IsNumber sample.1) (isNumber : IsNumber time) :
    array.sample? time = some (valueAlong time array.samples.toList) := by
  by_cases notEmpty : 0 < array.samples.size
  · have lastInside : array.samples.size - 1 < array.samples.size := by omega
    rw [sample?, Array.getElem?_eq_getElem notEmpty, Array.back?_eq_getElem?,
      Array.getElem?_eq_getElem lastInside]
    simp only
    split
    · rename_i notBegun
      rw [toList_eq_take_append_drop notEmpty, valueAlong_append_singleton notBegun]
      rfl
    · rename_i begun
      split
      · rename_i ended
        have nothingAfter : array.samples.toList.drop (array.samples.size - 1 + 1) = [] := by
          apply List.drop_eq_nil_of_le
          simp only [Array.length_toList]
          omega
        have toLast := toList_eq_take_append_drop lastInside
        rw [nothingAfter] at toLast
        rw [toLast] at increasing ⊢
        exact congrArg some (valueAlong_append_cons increasing ended).symm
      · rename_i notEnded
        have firstIsNumber := areNumbers _ (Array.getElem_mem_toList notEmpty)
        have hasBegun := le_of_lt ((not_le_iff isNumber firstIsNumber).mp begun)
        rcases exists_neighbours increasing notEmpty hasBegun notEnded with
          ⟨sample, next, here, after, between⟩
        rw [here, after, between]
        simp only
        split <;> rfl
  · have isEmpty : array.samples = #[] := Array.eq_empty_of_size_eq_zero (by omega)
    rw [sample?, isEmpty]
    rfl

end Values

end LayeredScene.TimeSamples
