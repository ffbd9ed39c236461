import LayeredScene.Proofs.TimeSamples.Piecewise
import LayeredScene.TimeSamples.Indexed

/-! # Checked reading

The samples taken apart into columns, one for the times, one for the values and one for the indices,
and read with a check at each position. A reading that leaves a column has no answer. Whatever the
times are, in order or not and numbers or not, this happens in one case only: a single sample whose
time is not ordered against the time asked for.
-/

namespace LayeredScene

open TimeOrder

def Unordered (time other : Float32) : Prop := ¬time ≤ other ∧ ¬other ≤ time

theorem unordered_iff {time other : Float32} :
    Unordered time other ↔ ¬IsNumber time ∨ ¬IsNumber other := by
  constructor
  · rintro ⟨notBefore, notAfter⟩
    by_contra numbers
    rw [not_or, not_not, not_not] at numbers
    exact notAfter (le_of_lt ((not_le_iff numbers.1 numbers.2).mp notBefore))
  · rintro (notNumber | notNumber)
    · exact ⟨fun before => notNumber (le_iff.mp before).1,
        fun after => notNumber (le_iff.mp after).2.1⟩
    · exact ⟨fun before => notNumber (le_iff.mp before).2.1,
        fun after => notNumber (le_iff.mp after).1⟩

namespace TimeSamples

variable {α : Type} {array : TimeSamples α} {time : Float32} {low high : ℕ}

/-! ## The search -/

def searchChecked (times : Array Float32) (time : Float32) (low high : ℕ) : Option ℕ :=
  if low < high then
    let middle := low + (high - low) / 2
    match times[middle]? with
    | some here =>
        if here ≤ time then searchChecked times time (middle + 1) high
        else searchChecked times time low middle
    | none => none
  else some low
termination_by high - low

def floorChecked (times : Array Float32) (time : Float32) : Option ℕ :=
  (searchChecked times time 0 times.size).map (· - 1)

theorem time_at {samples : Array (Float32 × α)} {position : ℕ} (inside : position < samples.size) :
    (samples.map (·.1))[position]? = some samples[position].1 := by
  rw [Array.getElem?_map, Array.getElem?_eq_getElem inside]
  rfl

theorem searchChecked_eq {samples : Array (Float32 × α)} (ordered : low ≤ high)
    (inside : high ≤ samples.size) :
    searchChecked (samples.map (·.1)) time low high =
      some (bisect (startsBy samples time) low high) := by
  fun_induction bisect (startsBy samples time) low high with
  | case1 low high less middle starts induction =>
      have middleInside : middle < samples.size := by omega
      rw [searchChecked, if_pos less]
      dsimp only
      rw [time_at middleInside]
      exact (if_pos ((startsBy_getElem middleInside).mp starts)).trans
        (induction (by omega) inside)
  | case2 low high less middle fails induction =>
      have middleInside : middle < samples.size := by omega
      rw [searchChecked, if_pos less]
      dsimp only
      rw [time_at middleInside]
      exact (if_neg (mt (startsBy_getElem middleInside).mpr fails)).trans
        (induction (by omega) (by omega))
  | case3 low high notLess => rw [searchChecked, if_neg notLess]

theorem floorChecked_eq (array : TimeSamples α) (time : Float32) :
    floorChecked (array.samples.map (·.1)) time = some (array.floorIndex time) := by
  rw [floorChecked, Array.size_map, searchChecked_eq (Nat.zero_le _) le_rfl]
  rfl

theorem floorIndex_succ_lt (several : 1 < array.samples.size)
    (notEnded : ¬array.samples[array.samples.size - 1].1 ≤ time) :
    array.floorIndex time + 1 < array.samples.size := by
  have bounds := bisect_bounds (startsBy array.samples time) 0 array.samples.size (Nat.zero_le _)
  have notAtEnd : bisect (startsBy array.samples time) 0 array.samples.size ≠
      array.samples.size := by
    intro atEnd
    have starts := holds_of_bisect_eq (Nat.zero_lt_of_lt several) atEnd
    exact notEnded ((startsBy_getElem (by omega)).mp starts)
  rw [floorIndex]
  omega

/-! ## Columns of given samples -/

theorem map_fst_zip_eq_take {β γ : Type} (first : List β) (second : List γ) :
    (first.zip second).map (·.1) = first.take (min first.length second.length) := by
  rw [List.zip_eq_zip_take_min]
  exact List.map_fst_zip (by simp only [List.length_take]; omega)

theorem map_snd_zip_eq_take {β γ : Type} (first : List β) (second : List γ) :
    (first.zip second).map (·.2) = second.take (min first.length second.length) := by
  rw [List.zip_eq_zip_take_min]
  exact List.map_snd_zip (by simp only [List.length_take]; omega)

theorem times_ofPairs_eq_single_iff (pairs : List (Stamp × α)) (only : Float32) :
    (ofPairs pairs).times = [only] ↔ pairs.map (·.1.time) = [only] := by
  have permuted : (ofPairs pairs).times.Perm (pairs.map (·.1.time)) := by
    have onTimes := (perm_ofPairs pairs).map Prod.fst
    rw [List.map_map] at onTimes
    exact onTimes
  rw [← List.perm_singleton, permuted.congr_left, List.perm_singleton]

section Columns

variable (times : List Float32) (values : List α) (indices : List (List Int32))

theorem times_ofParts :
    (ofParts times values).times = times.take (min times.length values.length) :=
  map_fst_zip_eq_take times values

theorem values_ofParts :
    (ofParts times values).values = values.take (min times.length values.length) :=
  map_snd_zip_eq_take times values

theorem indexed_ofParts_columns :
    let array := IndexedTimeSamples.ofParts times values indices
    let count := min (min times.length values.length) indices.length
    array.samples.toList.map (·.time) = times.take count ∧
      array.samples.toList.map (·.value) = values.take count ∧
      array.samples.toList.map (·.indices) = indices.take count := by
  intro array count
  have timesCut := map_fst_zip_eq_take times (values.zip indices)
  have restCut := map_snd_zip_eq_take times (values.zip indices)
  have valuesCut := congrArg (List.map (·.1)) restCut
  have indicesCut := congrArg (List.map (·.2)) restCut
  rw [List.map_map, List.map_take, map_fst_zip_eq_take, List.take_take] at valuesCut
  rw [List.map_map, List.map_take, map_snd_zip_eq_take, List.take_take] at indicesCut
  rw [List.length_zip] at timesCut valuesCut indicesCut
  have countOfTimes : count = min times.length (min values.length indices.length) :=
    Nat.min_assoc _ _ _
  have countOfRest : count = min (min times.length (min values.length indices.length))
      (min values.length indices.length) := by
    omega
  refine ⟨?_, ?_, ?_⟩
  · rw [countOfTimes, ← timesCut]
    exact List.map_map
  · rw [countOfRest, ← valuesCut]
    exact List.map_map
  · rw [countOfRest, ← indicesCut]
    exact List.map_map

end Columns

/-! ## Values and indices -/

section Values

variable [Inhabited α] [Blend α]

def valueChecked (times : Array Float32) (values : Array α) (time : Float32) : Option α := do
  if times.size = 0 then return default
  if time ≤ (← times[0]?) then return ← values[0]?
  if (← times[times.size - 1]?) ≤ time then return ← values[times.size - 1]?
  let position ← floorChecked times time
  let start ← times[position]?
  let finish ← times[position + 1]?
  if time == start || finish ≤ start then return ← values[position]?
  return Blend.blend (← values[position]?) (← values[position + 1]?)
    ((time - start) / (finish - start))

def indexedChecked (times : Array Float32) (values : Array α) (indices : Array (List Int32))
    (time : Float32) : Option (α × List Int32) := do
  if times.size = 0 then return (default, [])
  if time ≤ (← times[0]?) then return (← values[0]?, ← indices[0]?)
  if (← times[times.size - 1]?) ≤ time then
    return (← values[times.size - 1]?, ← indices[times.size - 1]?)
  let position ← floorChecked times time
  let start ← times[position]?
  let finish ← times[position + 1]?
  if time == start || finish ≤ start then return (← values[position]?, ← indices[position]?)
  if (← indices[position]?) ≠ (← indices[position + 1]?) then
    return (← values[position]?, ← indices[position]?)
  return (Blend.blend (← values[position]?) (← values[position + 1]?)
    ((time - start) / (finish - start)), ← indices[position]?)

theorem valueChecked_eq (array : TimeSamples α) (time : Float32) :
    valueChecked (array.samples.map (·.1)) (array.samples.map (·.2)) time = array.sample? time := by
  rw [valueChecked, sample?, Array.back?_eq_getElem?, floorChecked_eq]
  simp only [Array.size_map, Array.getElem?_map]
  by_cases notEmpty : 0 < array.samples.size
  · have lastInside : array.samples.size - 1 < array.samples.size := by omega
    have here := Array.getElem?_eq_getElem (array.floorIndex_lt time notEmpty)
    rw [if_neg notEmpty.ne', Array.getElem?_eq_getElem notEmpty,
      Array.getElem?_eq_getElem lastInside]
    simp only [Option.map_some, Option.bind_eq_bind, Option.bind_some, here]
    cases array.samples[array.floorIndex time + 1]? with
    | none => rfl
    | some next => rfl
  · have isEmpty : array.samples = #[] := Array.eq_empty_of_size_eq_zero (by omega)
    rw [isEmpty]
    rfl

theorem sample?_ne_none_of_several (several : 1 < array.samples.size) :
    array.sample? time ≠ none := by
  have notEmpty : 0 < array.samples.size := Nat.zero_lt_of_lt several
  have lastInside : array.samples.size - 1 < array.samples.size := by omega
  rw [sample?, Array.back?_eq_getElem?, Array.getElem?_eq_getElem notEmpty,
    Array.getElem?_eq_getElem lastInside]
  dsimp only
  split_ifs with notBegun ended
  · exact Option.some_ne_none _
  · exact Option.some_ne_none _
  · rw [Array.getElem?_eq_getElem (array.floorIndex_lt time notEmpty),
      Array.getElem?_eq_getElem (floorIndex_succ_lt several ended)]
    dsimp only
    split_ifs <;> exact Option.some_ne_none _

theorem sample?_eq_none_iff_of_single {only : Float32} (isSingle : array.times = [only]) :
    array.sample? time = none ↔ Unordered time only := by
  rcases List.map_eq_singleton_iff.mp isSingle with ⟨sample, isOnly, rfl⟩
  have counted : array.samples.size = 1 := congrArg List.length isOnly
  have first : array.samples[0]? = some sample := by
    rw [← Array.getElem?_toList, isOnly]
    rfl
  have nothingAfter : array.samples[array.floorIndex time + 1]? = none :=
    Array.getElem?_eq_none (by omega)
  rw [sample?, Array.back?_eq_getElem?, counted, first]
  dsimp only
  rw [Array.getElem?_eq_getElem (array.floorIndex_lt time (by omega)), nothingAfter]
  dsimp only
  split_ifs with notBegun ended
  · exact iff_of_false not_false fun unordered => unordered.1 notBegun
  · exact iff_of_false not_false fun unordered => unordered.2 ended
  · exact iff_of_true rfl ⟨notBegun, ended⟩

theorem sample?_eq_none_iff (array : TimeSamples α) (time : Float32) :
    array.sample? time = none ↔ ∃ only, array.times = [only] ∧ Unordered time only := by
  have counted : array.times.length = array.samples.size := List.length_map _
  constructor
  · intro nothing
    rcases Nat.lt_trichotomy array.samples.size 1 with isEmpty | isSingle | several
    · have noSamples : array.samples = #[] := Array.eq_empty_of_size_eq_zero (by omega)
      rw [sample?, noSamples] at nothing
      contradiction
    · rcases List.length_eq_one_iff.mp (counted.trans isSingle) with ⟨only, isOnly⟩
      exact ⟨only, isOnly, (sample?_eq_none_iff_of_single isOnly).mp nothing⟩
    · exact absurd nothing (sample?_ne_none_of_several several)
  · rintro ⟨only, isOnly, unordered⟩
    exact (sample?_eq_none_iff_of_single isOnly).mpr unordered

theorem indexedChecked_eq (array : IndexedTimeSamples α) (time : Float32) :
    indexedChecked (array.samples.map (·.time)) (array.samples.map (·.value))
      (array.samples.map (·.indices)) time = array.sample? time := by
  have timesOfPlain : array.samples.map (·.time) = array.plain.samples.map (·.1) := by
    rw [IndexedTimeSamples.plain, Array.map_map]
    rfl
  rw [indexedChecked, IndexedTimeSamples.sample?, Array.back?_eq_getElem?, timesOfPlain,
    floorChecked_eq, ← timesOfPlain]
  simp only [Array.size_map, Array.getElem?_map]
  by_cases notEmpty : 0 < array.samples.size
  · have lastInside : array.samples.size - 1 < array.samples.size := by omega
    have floorInside : array.plain.floorIndex time < array.samples.size :=
      array.size_plain ▸ array.plain.floorIndex_lt time (array.size_plain ▸ notEmpty)
    have here := Array.getElem?_eq_getElem floorInside
    rw [if_neg notEmpty.ne', Array.getElem?_eq_getElem notEmpty,
      Array.getElem?_eq_getElem lastInside]
    simp only [Option.map_some, Option.bind_eq_bind, Option.bind_some, here]
    cases array.samples[array.plain.floorIndex time + 1]? with
    | none => rfl
    | some next =>
        -- the indices are only compared where the times have not settled that the sample holds
        simp only [Option.map_some, Option.bind_some]
        generalize (time == array.samples[array.plain.floorIndex time].time ||
          decide (next.time ≤ array.samples[array.plain.floorIndex time].time)) = held
        cases held with
        | true => rfl
        | false =>
            simp only [Bool.false_eq_true, if_false, Bool.false_or, decide_eq_true_eq]
            rfl
  · have isEmpty : array.samples = #[] := Array.eq_empty_of_size_eq_zero (by omega)
    rw [isEmpty]
    rfl

theorem indexed_sample?_eq_none_iff (array : IndexedTimeSamples α) (time : Float32) :
    array.sample? time = none ↔ array.plain.sample? time = none := by
  rw [IndexedTimeSamples.sample?, sample?, Array.back?_eq_getElem?, Array.back?_eq_getElem?,
    array.size_plain, array.getElem?_plain, array.getElem?_plain]
  cases array.samples[0]? with
  | none => exact iff_of_false (Option.some_ne_none _) (Option.some_ne_none _)
  | some first =>
      cases array.samples[array.samples.size - 1]? with
      | none => exact iff_of_false (Option.some_ne_none _) (Option.some_ne_none _)
      | some last =>
          dsimp only [Option.map]
          split_ifs with notBegun ended
          · exact Iff.rfl
          · exact Iff.rfl
          · rw [array.getElem?_plain, array.getElem?_plain]
            cases array.samples[array.plain.floorIndex time]? with
            | none => exact iff_of_true rfl rfl
            | some sample =>
                cases array.samples[array.plain.floorIndex time + 1]? with
                | none => exact iff_of_true rfl rfl
                | some next =>
                    dsimp only [Option.map]
                    split_ifs <;> exact Iff.rfl

theorem valueChecked_times_values (array : TimeSamples α) (time : Float32) :
    valueChecked array.times.toArray array.values.toArray time = array.sample? time := by
  rw [← valueChecked_eq, times, values, ← Array.toList_map, ← Array.toList_map]

/-- However samples are given, from lists of any lengths and at any times, their columns are cut to
one length, and what is read with checks is what is read. It is nothing in one case only: a single
sample, whose time and the time asked for are not ordered. -/
theorem reads_inside :
    (∀ (time other : Float32), Unordered time other ↔ ¬IsNumber time ∨ ¬IsNumber other) ∧
    (∀ (pairs : List (Stamp × α)) (time : Float32),
      valueChecked (ofPairs pairs).times.toArray (ofPairs pairs).values.toArray time =
          (ofPairs pairs).sample? time ∧
        ((ofPairs pairs).sample? time = none ↔
          ∃ only, pairs.map (·.1.time) = [only] ∧ Unordered time only)) ∧
    (∀ (times : List Float32) (values : List α) (time : Float32),
      let count := min times.length values.length
      valueChecked (times.take count).toArray (values.take count).toArray time =
          (ofParts times values).sample? time ∧
        ((ofParts times values).sample? time = none ↔
          ∃ only, times.take count = [only] ∧ Unordered time only)) ∧
    ∀ (times : List Float32) (values : List α) (indices : List (List Int32)) (time : Float32),
      let count := min (min times.length values.length) indices.length
      indexedChecked (times.take count).toArray (values.take count).toArray
            (indices.take count).toArray time =
          (IndexedTimeSamples.ofParts times values indices).sample? time ∧
        ((IndexedTimeSamples.ofParts times values indices).sample? time = none ↔
          ∃ only, times.take count = [only] ∧ Unordered time only) := by
  refine ⟨fun _ _ => unordered_iff, ?_, ?_, ?_⟩
  · intro pairs time
    refine ⟨valueChecked_times_values _ time, ?_⟩
    rw [sample?_eq_none_iff]
    simp only [times_ofPairs_eq_single_iff]
  · intro times values time count
    rw [← times_ofParts, ← values_ofParts]
    exact ⟨valueChecked_times_values _ time, sample?_eq_none_iff _ time⟩
  · intro times values indices time count
    have columns := indexed_ofParts_columns times values indices
    have plainTimes : (IndexedTimeSamples.ofParts times values indices).plain.times =
        times.take count := by
      rw [← columns.1, TimeSamples.times, IndexedTimeSamples.plain, Array.toList_map, List.map_map]
      rfl
    constructor
    · rw [← indexedChecked_eq, ← columns.1, ← columns.2.1, ← columns.2.2, ← Array.toList_map,
        ← Array.toList_map, ← Array.toList_map]
    · rw [indexed_sample?_eq_none_iff, sample?_eq_none_iff, plainTimes]

end Values

end TimeSamples

end LayeredScene
