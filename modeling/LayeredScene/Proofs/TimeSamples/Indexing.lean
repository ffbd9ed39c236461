import LayeredScene.Proofs.TimeSamples.Piecewise
import LayeredScene.TimeSamples.Indexed

/-! # Values with their indices

What is read of indexed samples is never put together from two of them: the indices are those of the
last sample that is no later than the time, and the value is that sample's own or, if the next one
has the same indices, the blend of the two. Where all indices are the same they make no difference.
-/

namespace LayeredScene.IndexedTimeSamples

open TimeOrder TimeSamples

variable {α : Type} {array : IndexedTimeSamples α} {time : Float32} {position : ℕ}
  {sample next : IndexedSample α}

theorem plain_of_found (found : array.samples[position]? = some sample) :
    array.plain.samples[position]? = some (sample.time, sample.value) := by
  rw [getElem?_plain, found]
  rfl

theorem isNumber_at (areNumbers : ∀ sample ∈ array.plain.samples.toList, IsNumber sample.1)
    (found : array.samples[position]? = some sample) : IsNumber sample.time :=
  areNumbers (sample.time, sample.value)
    (Array.mem_toList_iff.mpr (Array.mem_of_getElem? (plain_of_found found)))

theorem exists_around (increasing : Increasing array.plain.samples.toList)
    (areNumbers : ∀ sample ∈ array.plain.samples.toList, IsNumber sample.1)
    (isNumber : IsNumber time) {first last : IndexedSample α}
    (isFirst : array.samples[0]? = some first) (notEarly : ¬time ≤ first.time)
    (isLast : array.samples[array.samples.size - 1]? = some last) (notLate : ¬last.time ≤ time) :
    ∃ sample next, array.samples[array.plain.floorIndex time]? = some sample ∧
      array.samples[array.plain.floorIndex time + 1]? = some next ∧ sample.time ≤ time ∧
      time < next.time := by
  have begun := le_of_lt ((not_le_iff isNumber (isNumber_at areNumbers isFirst)).mp notEarly)
  have inside := array.plain.floorIndex_lt time
    (array.size_plain ▸ Nat.zero_lt_of_lt (Array.getElem?_eq_some_iff.mp isFirst).1)
  rw [size_plain] at inside
  have found := Array.getElem?_eq_getElem inside
  have started : array.samples[array.plain.floorIndex time].time ≤ time := by
    rcases (isGreatest_floorIndex increasing ⟨0, _, plain_of_found isFirst, begun⟩).1 with
      ⟨sample, plainFound, started⟩
    rw [plain_of_found found, Option.some_inj] at plainFound
    rwa [← plainFound] at started
  cases following : array.samples[array.plain.floorIndex time + 1]? with
  | none =>
      have noMore := Array.getElem?_eq_none_iff.mp following
      have atLast : array.plain.floorIndex time = array.samples.size - 1 := by omega
      rw [← atLast, found, Option.some_inj] at isLast
      rw [isLast] at started
      exact absurd started notLate
  | some next =>
      have notNext : ¬next.time ≤ time := by
        rw [← le_floorIndex_iff increasing (Nat.succ_pos _) (plain_of_found following)]
        omega
      have nextIsNumber := isNumber_at areNumbers following
      exact ⟨_, next, found, rfl, started, (not_le_iff nextIsNumber isNumber).mp notNext⟩

structure Spans (array : IndexedTimeSamples α) (time : Float32) (sample next : IndexedSample α) :
    Prop where
  found : array.samples[array.plain.floorIndex time]? = some sample
  following : array.samples[array.plain.floorIndex time + 1]? = some next
  begun : sample.time < time
  ahead : time < next.time
  shared : sample.indices = next.indices

variable [Inhabited α] [Blend α] {value : α}

/-- A value comes from one sample: it is the sample's own, or a blend with the next one. -/
def ComesFrom (array : IndexedTimeSamples α) (time : Float32) (sample : IndexedSample α)
    (value : α) : Prop :=
  (¬∃ next, array.Spans time sample next) ∧ value = sample.value ∨
    ∃ next, array.Spans time sample next ∧
      value = Blend.blend sample.value next.value
        ((time - sample.time) / (next.time - sample.time)) ∧
      array.plain.sample? time = some value

def AllShare (array : IndexedTimeSamples α) : Prop :=
  ∀ sample ∈ array.samples, ∀ other ∈ array.samples, sample.indices = other.indices

def Keeps (array : IndexedTimeSamples α) (time : Float32) : Prop :=
  ∃ sample value, array.samples[array.plain.floorIndex time]? = some sample ∧
    array.sample? time = some (value, sample.indices) ∧ array.ComesFrom time sample value ∧
    (array.AllShare → array.plain.sample? time = some value)

theorem keeps_of_held (found : array.samples[array.plain.floorIndex time]? = some sample)
    (isRead : array.sample? time = some (sample.value, sample.indices))
    (held : ¬∃ next, array.Spans time sample next)
    (plainly : array.AllShare → array.plain.sample? time = some sample.value) : array.Keeps time :=
  ⟨sample, sample.value, found, isRead, Or.inl ⟨held, rfl⟩, plainly⟩

section Increasing

variable (increasing : Increasing array.plain.samples.toList)
  (areNumbers : ∀ sample ∈ array.plain.samples.toList, IsNumber sample.1)
  (isNumber : IsNumber time)
include increasing areNumbers isNumber

theorem plain_sample? (found : array.samples[position]? = some sample) {value : α} :
    array.plain.Blended time value ↔ array.plain.sample? time = some value := by
  have inside := (Array.getElem?_eq_some_iff.mp found).1
  apply blended_iff increasing areNumbers isNumber
  rw [size_plain]
  exact Nat.zero_lt_of_lt inside

theorem keeps_early (isFirst : array.samples[0]? = some sample) (early : time ≤ sample.time) :
    array.Keeps time := by
  have inside := (Array.getElem?_eq_some_iff.mp isFirst).1
  have isFloor := floorIndex_of_early increasing (plain_of_found isFirst) early
  apply keeps_of_held (isFloor ▸ isFirst)
  · rw [sample?, Array.back?_eq_getElem?, isFirst,
      Array.getElem?_eq_getElem (show array.samples.size - 1 < array.samples.size by omega)]
    exact if_pos early
  · rintro ⟨next, spans⟩
    exact not_le_of_lt spans.begun early
  · intro _
    exact (plain_sample? increasing areNumbers isNumber isFirst).mp
      (.before _ (plain_of_found isFirst) early)

theorem keeps_late {first : IndexedSample α} (isFirst : array.samples[0]? = some first)
    (notEarly : ¬time ≤ first.time)
    (isLast : array.samples[array.samples.size - 1]? = some sample) (late : sample.time ≤ time) :
    array.Keeps time := by
  have inside := (Array.getElem?_eq_some_iff.mp isFirst).1
  have isLastOfPlain := plain_of_found isLast
  rw [← size_plain] at isLastOfPlain
  have isFloor := floorIndex_of_late increasing isLastOfPlain late
  rw [size_plain] at isFloor
  apply keeps_of_held (isFloor ▸ isLast)
  · rw [sample?, Array.back?_eq_getElem?, isFirst, isLast]
    exact (if_neg notEarly).trans (if_pos late)
  · rintro ⟨next, spans⟩
    have nextInside := (Array.getElem?_eq_some_iff.mp spans.following).1
    omega
  · intro _
    exact (plain_sample? increasing areNumbers isNumber isFirst).mp
      (.after _ isLastOfPlain late)

theorem keeps_inside {first last : IndexedSample α} (isFirst : array.samples[0]? = some first)
    (notEarly : ¬time ≤ first.time)
    (isLast : array.samples[array.samples.size - 1]? = some last) (notLate : ¬last.time ≤ time) :
    array.Keeps time := by
  rcases exists_around increasing areNumbers isNumber isFirst notEarly isLast notLate with
    ⟨sample, next, found, following, started, ahead⟩
  have isRead : array.sample? time =
      if time == sample.time || decide (next.time ≤ sample.time) ||
          decide (sample.indices ≠ next.indices) then some (sample.value, sample.indices)
      else some (Blend.blend sample.value next.value (progress time sample.time next.time),
        sample.indices) := by
    rw [sample?, Array.back?_eq_getElem?, isFirst, isLast]
    dsimp only
    rw [if_neg notEarly, if_neg notLate, found, following]
  by_cases reached : time ≤ sample.time
  · have same : (time == sample.time) = true := beq_iff.mpr ⟨reached, started⟩
    apply keeps_of_held found
    · rw [isRead, same]
      rfl
    · rintro ⟨other, spans⟩
      exact not_le_of_lt spans.begun reached
    · intro _
      exact (plain_sample? increasing areNumbers isNumber found).mp
        (.here _ _ (plain_of_found found) same)
  · have passed := (not_le_iff isNumber (isNumber_at areNumbers found)).mp reached
    have notSame : (time == sample.time) = false :=
      Bool.eq_false_iff.mpr fun same => reached (beq_iff.mp same).1
    have apart : decide (next.time ≤ sample.time) = false :=
      decide_eq_false fun before => not_le_of_lt ahead (le_trans before started)
    rw [notSame, apart, Bool.false_or, Bool.false_or] at isRead
    by_cases shared : sample.indices = next.indices
    · have plainly := (plain_sample? increasing areNumbers isNumber found).mp
        (.between _ _ _ (plain_of_found found) (plain_of_found following) passed ahead)
      rw [decide_eq_false (not_not.mpr shared)] at isRead
      exact ⟨sample, _, found, isRead,
        Or.inr ⟨next, ⟨found, following, passed, ahead, shared⟩, rfl, plainly⟩, fun _ => plainly⟩
    · apply keeps_of_held found
      · rw [isRead, decide_eq_true shared]
        rfl
      · rintro ⟨other, spans⟩
        have isNext := Option.some_inj.mp (spans.following.symm.trans following)
        exact shared (isNext ▸ spans.shared)
      · intro allShare
        exact absurd (allShare sample (Array.mem_of_getElem? found) next
          (Array.mem_of_getElem? following)) shared

end Increasing

/-- Indexed samples in order of time are read without mixing them: there always is an answer, the
defaults if there are no samples, and otherwise the indices of the sample found for the time with a
value that comes from this one. If all indices are the same, the value is the one read without
indices. -/
theorem sample?_keepsTogether (array : IndexedTimeSamples α)
    (increasing : array.plain.times.Pairwise (· < ·))
    (areNumbers : ∀ time ∈ array.plain.times, IsNumber time) (isNumber : IsNumber time) :
    ∃ value indices, array.sample? time = some (value, indices) ∧
      (array.samples = #[] ∧ value = default ∧ indices = [] ∨
        ∃ sample, array.samples[array.plain.floorIndex time]? = some sample ∧
          indices = sample.indices ∧ array.ComesFrom time sample value) ∧
      (array.AllShare → array.plain.sample? time = some value) := by
  have increasingSamples : Increasing array.plain.samples.toList := List.pairwise_map.mp increasing
  have sampleNumbers : ∀ sample ∈ array.plain.samples.toList, IsNumber sample.1 :=
    fun sample member => areNumbers sample.1 (List.mem_map_of_mem member)
  by_cases notEmpty : 0 < array.samples.size
  · have isFirst := Array.getElem?_eq_getElem notEmpty
    have lastInside : array.samples.size - 1 < array.samples.size := by omega
    have isLast := Array.getElem?_eq_getElem lastInside
    have keeps : array.Keeps time := by
      by_cases early : time ≤ array.samples[0].time
      · exact keeps_early increasingSamples sampleNumbers isNumber isFirst early
      · by_cases late : array.samples[array.samples.size - 1].time ≤ time
        · exact keeps_late increasingSamples sampleNumbers isNumber isFirst early isLast late
        · exact keeps_inside increasingSamples sampleNumbers isNumber isFirst early isLast late
    rcases keeps with ⟨sample, value, found, isRead, comesFrom, plainly⟩
    exact ⟨value, sample.indices, isRead, Or.inr ⟨sample, found, rfl, comesFrom⟩, plainly⟩
  · have isEmpty : array.samples = #[] := Array.eq_empty_of_size_eq_zero (by omega)
    refine ⟨default, [], ?_, Or.inl ⟨isEmpty, rfl, rfl⟩, fun _ => ?_⟩
    · rw [sample?, isEmpty]
      rfl
    · rw [TimeSamples.sample?, plain, isEmpty, Array.map_empty]
      rfl

def changedIndices : IndexedTimeSamples Value :=
  ofParts [0, 1, 2] [.single .float 3, .single .float 2, .single .float 5] [[0, 1], [0, 1], [1, 0]]

theorem sample?_keepsTogether_changedIndices :
    changedIndices.plain.times.Pairwise (· < ·) ∧
      (∀ time ∈ changedIndices.plain.times, IsNumber time) ∧ IsNumber 1.5 ∧
      changedIndices.sample? 1.5 = some (.single .float 2, [0, 1]) := by
  have increasing : changedIndices.plain.times.Pairwise (· < ·) := by decide +kernel
  have bounded : ∀ time ∈ changedIndices.plain.times, time ≤ 2 := by decide +kernel
  have areNumbers := areNumbers_of_le bounded
  have isNumber : IsNumber 1.5 := (le_iff.mp (show (1.5 : Float32) ≤ 2 by decide +kernel)).1
  have isFloor : changedIndices.plain.floorIndex 1.5 = 1 := by decide +kernel
  refine ⟨increasing, areNumbers, isNumber, ?_⟩
  rcases sample?_keepsTogether changedIndices increasing areNumbers isNumber with
    ⟨value, indices, isRead, comesFrom, _⟩
  rw [isRead]
  rcases comesFrom with ⟨isEmpty, _⟩ | ⟨sample, found, rfl, ⟨_, rfl⟩ | ⟨next, spans, _⟩⟩
  · cases isEmpty
  · rw [isFloor] at found
    cases found
    rfl
  · have following := spans.following
    have shared := spans.shared
    rw [isFloor] at found following
    cases found
    cases following
    contradiction

end LayeredScene.IndexedTimeSamples
