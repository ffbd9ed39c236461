import LayeredScene.Proofs.TimeSamples.Resampling
import LayeredScene.Proofs.TimeSamples.StampOrder
import Mathlib.Data.List.Pairwise
import Mathlib.Order.Bounds.Basic

/-! # Values piece by piece

Samples hold before the first and after the last of them and at their own times, and blend between
them. Halving finds the last sample that is no later than a time, and the order in which samples are
given does not matter.
-/

namespace LayeredScene.TimeSamples

open TimeOrder

variable {α : Type} {array : TimeSamples α} {time : Float32} {position : ℕ}
  {sample next : Float32 × α}

/-! ## The position found -/

def startedBy (array : TimeSamples α) (time : Float32) : Set ℕ :=
  {position | ∃ sample, array.samples[position]? = some sample ∧ sample.1 ≤ time}

theorem le_floorIndex_iff (increasing : Increasing array.samples.toList) (notFirst : 0 < position)
    (found : array.samples[position]? = some sample) :
    position ≤ array.floorIndex time ↔ sample.1 ≤ time := by
  rcases Array.getElem?_eq_some_iff.mp found with ⟨inside, rfl⟩
  rw [← increasing.lt_bisect_startsBy_iff inside, floorIndex]
  omega

theorem floorIndex_mem_startedBy (increasing : Increasing array.samples.toList)
    (notEmpty : 0 < array.samples.size) (notFirst : 0 < array.floorIndex time) :
    array.floorIndex time ∈ array.startedBy time := by
  have found := Array.getElem?_eq_getElem (array.floorIndex_lt time notEmpty)
  exact ⟨_, found, (le_floorIndex_iff increasing notFirst found).mp le_rfl⟩

theorem isGreatest_floorIndex (increasing : Increasing array.samples.toList)
    (started : (array.startedBy time).Nonempty) :
    IsGreatest (array.startedBy time) (array.floorIndex time) := by
  have atMost : ∀ position ∈ array.startedBy time, position ≤ array.floorIndex time := by
    rintro position ⟨sample, found, begun⟩
    rcases Nat.eq_zero_or_pos position with rfl | notFirst
    · exact Nat.zero_le _
    · exact (le_floorIndex_iff increasing notFirst found).mpr begun
  refine ⟨?_, atMost⟩
  rcases started with ⟨position, isStarted⟩
  rcases Nat.eq_zero_or_pos (array.floorIndex time) with isFirst | notFirst
  · have same : position = array.floorIndex time := by
      have := atMost position isStarted
      omega
    rwa [← same]
  · rcases isStarted with ⟨sample, found, _⟩
    have inside := (Array.getElem?_eq_some_iff.mp found).1
    exact floorIndex_mem_startedBy increasing (Nat.zero_lt_of_lt inside) notFirst

theorem floorIndex_eq_zero (increasing : Increasing array.samples.toList)
    (notEmpty : 0 < array.samples.size) (noneStarted : array.startedBy time = ∅) :
    array.floorIndex time = 0 := by
  by_contra notFirst
  have started := floorIndex_mem_startedBy increasing notEmpty (Nat.pos_of_ne_zero notFirst)
  rw [noneStarted] at started
  exact started

theorem floorIndex_eq (increasing : Increasing array.samples.toList)
    (found : array.samples[position]? = some sample) (begun : sample.1 ≤ time)
    (following : array.samples[position + 1]? = some next) (ahead : ¬next.1 ≤ time) :
    array.floorIndex time = position := by
  have atLeast := (isGreatest_floorIndex increasing ⟨position, sample, found, begun⟩).2
    ⟨sample, found, begun⟩
  have notNext := (le_floorIndex_iff increasing (Nat.succ_pos position) following).not.mpr ahead
  omega

theorem floorIndex_of_early (increasing : Increasing array.samples.toList)
    (isFirst : array.samples[0]? = some sample) (early : time ≤ sample.1) :
    array.floorIndex time = 0 := by
  rcases Array.getElem?_eq_some_iff.mp isFirst with ⟨notEmpty, rfl⟩
  by_contra later
  rcases floorIndex_mem_startedBy increasing notEmpty (Nat.pos_of_ne_zero later) with
    ⟨other, found, begun⟩
  rcases Array.getElem?_eq_some_iff.mp found with ⟨inside, rfl⟩
  have before := List.pairwise_iff_getElem.mp increasing 0 _ notEmpty inside
    (Nat.pos_of_ne_zero later)
  exact not_le_of_lt before (le_trans begun early)

theorem floorIndex_of_late (increasing : Increasing array.samples.toList)
    (isLast : array.samples[array.samples.size - 1]? = some sample) (late : sample.1 ≤ time) :
    array.floorIndex time = array.samples.size - 1 := by
  have atLeast := (isGreatest_floorIndex increasing ⟨_, sample, isLast, late⟩).2
    ⟨sample, isLast, late⟩
  have inside := array.floorIndex_lt time
    (Nat.zero_lt_of_lt (Array.getElem?_eq_some_iff.mp isLast).1)
  omega

/-! ## The order in which samples are given -/

section Given

variable {pairs : List (Stamp × α)} {other : Float32 × α}

def authored (pair : Stamp × α) : Float32 × α := (pair.1.time, pair.2)

theorem perm_ofPairs (pairs : List (Stamp × α)) :
    (ofPairs pairs).samples.toList.Perm (pairs.map authored) :=
  (List.mergeSort_perm pairs _).map authored

theorem pairwise_ofPairs :
    (ofPairs pairs).samples.toList.Pairwise fun sample next => ¬next.1 < sample.1 := by
  have placed := @List.pairwise_mergeSort (Stamp × α)
    (fun pair other => decide (pair.1.orderKey ≤ other.1.orderKey))
    (by simpa using fun _ _ _ _ _ _ => UInt32.le_trans)
    (by simpa using fun _ _ _ _ => UInt32.le_total _ _) pairs
  apply List.pairwise_map.mpr
  apply placed.imp
  intro pair other ordered earlier
  exact UInt32.not_lt.mpr (of_decide_eq_true ordered) (Stamp.orderKey_lt_of_lt earlier)

theorem Increasing.eq_of_not_lt {samples : List (Float32 × α)} (increasing : Increasing samples)
    (member : sample ∈ samples) (otherMember : other ∈ samples) (notAfter : ¬other.1 < sample.1)
    (notBefore : ¬sample.1 < other.1) : sample = other := by
  by_contra different
  have : Std.Symm fun sample next : Float32 × α => sample.1 < next.1 ∨ next.1 < sample.1 :=
    ⟨fun _ _ => Or.symm⟩
  have apart : samples.Pairwise fun sample next => sample.1 < next.1 ∨ next.1 < sample.1 :=
    increasing.imp Or.inl
  rcases apart.forall member otherMember different with before | after
  · exact notBefore before
  · exact notAfter after

theorem ofPairs_eq (increasing : Increasing array.samples.toList)
    (permuted : (pairs.map authored).Perm array.samples.toList) : ofPairs pairs = array := by
  have sameSamples := (perm_ofPairs pairs).trans permuted
  have inOrder : array.samples.toList.Pairwise fun sample next => ¬next.1 < sample.1 :=
    increasing.imp fun before after => not_le_of_lt before (le_of_lt after)
  have sameList : (ofPairs pairs).samples.toList = array.samples.toList := by
    apply List.Perm.eq_of_pairwise _ pairwise_ofPairs inOrder sameSamples
    intro sample other member otherMember notAfter notBefore
    exact increasing.eq_of_not_lt (sameSamples.mem_iff.mp member) otherMember notAfter notBefore
  cases array
  exact congrArg TimeSamples.mk (Array.toList_inj.mp sameList)

end Given

/-! ## The value at a time -/

/-- What the value at a time is: that of the first sample up to its time, that of the last one from
its time on, that of any sample at its time, and between two samples their blend. -/
inductive Blended [Blend α] (array : TimeSamples α) (time : Float32) : α → Prop
  | before (sample : Float32 × α) (isFirst : array.samples[0]? = some sample)
      (early : time ≤ sample.1) : Blended array time sample.2
  | after (sample : Float32 × α) (isLast : array.samples[array.size - 1]? = some sample)
      (late : sample.1 ≤ time) : Blended array time sample.2
  | here (position : ℕ) (sample : Float32 × α) (found : array.samples[position]? = some sample)
      (same : (time == sample.1) = true) : Blended array time sample.2
  | between (position : ℕ) (sample next : Float32 × α)
      (found : array.samples[position]? = some sample)
      (following : array.samples[position + 1]? = some next) (begun : sample.1 < time)
      (ahead : time < next.1) :
      Blended array time (Blend.blend sample.2 next.2 ((time - sample.1) / (next.1 - sample.1)))

theorem toList_cut (found : array.samples[position]? = some sample) :
    array.samples.toList = array.samples.toList.take position ++
      sample :: array.samples.toList.drop (position + 1) := by
  rcases Array.getElem?_eq_some_iff.mp found with ⟨inside, rfl⟩
  exact toList_eq_take_append_drop inside

theorem drop_cut (following : array.samples[position]? = some next) :
    array.samples.toList.drop position = next :: array.samples.toList.drop (position + 1) := by
  rcases Array.getElem?_eq_some_iff.mp following with ⟨inside, rfl⟩
  rw [← Array.getElem_toList, ← List.drop_eq_getElem_cons]

variable [Blend α] {value : α}

theorem exists_blended (increasing : Increasing array.samples.toList)
    (areNumbers : ∀ sample ∈ array.samples.toList, IsNumber sample.1) (isNumber : IsNumber time)
    (notEmpty : 0 < array.samples.size) : ∃ value, Blended array time value := by
  have sampleNumber : ∀ {position : ℕ} {sample : Float32 × α},
      array.samples[position]? = some sample → IsNumber sample.1 := by
    intro position sample found
    exact areNumbers sample (Array.mem_toList_iff.mpr (Array.mem_of_getElem? found))
  have isFirst := Array.getElem?_eq_getElem notEmpty
  by_cases begun : array.samples[0].1 ≤ time
  · rcases (isGreatest_floorIndex increasing ⟨0, _, isFirst, begun⟩).1 with ⟨sample, found, started⟩
    by_cases reached : time ≤ sample.1
    · exact ⟨_, .here _ sample found (beq_iff.mpr ⟨reached, started⟩)⟩
    · cases following : array.samples[array.floorIndex time + 1]? with
      | none =>
          have inside := (Array.getElem?_eq_some_iff.mp found).1
          have noMore := Array.getElem?_eq_none_iff.mp following
          have isLast : array.floorIndex time = array.size - 1 := by
            rw [size]
            omega
          rw [isLast] at found
          exact ⟨_, .after sample found started⟩
      | some next =>
          have notNext : ¬next.1 ≤ time := by
            rw [← le_floorIndex_iff increasing (Nat.succ_pos _) following]
            omega
          have ahead := (not_le_iff (sampleNumber following) isNumber).mp notNext
          have passed := (not_le_iff isNumber (sampleNumber found)).mp reached
          exact ⟨_, .between _ sample next found following passed ahead⟩
  · have early := (not_le_iff (sampleNumber isFirst) isNumber).mp begun
    exact ⟨_, .before _ isFirst (le_of_lt early)⟩

variable [Inhabited α]

theorem Blended.eq_valueAlong (increasing : Increasing array.samples.toList)
    (blended : Blended array time value) : value = valueAlong time array.samples.toList := by
  cases blended with
  | before sample isFirst early =>
      rw [toList_cut isFirst, valueAlong_append_singleton early]
      rfl
  | after sample isLast late =>
      have nothingAfter : array.samples.toList.drop (array.size - 1 + 1) = [] := by
        apply List.drop_eq_nil_of_le
        simp only [Array.length_toList, size]
        omega
      rw [toList_cut isLast, nothingAfter] at increasing ⊢
      rw [valueAlong_append_cons increasing late]
      rfl
  | here position sample found same =>
      rcases beq_iff.mp same with ⟨reached, begun⟩
      have held : valueAlong time ([] ++ sample :: array.samples.toList.drop (position + 1)) =
          sample.2 := valueAlong_append_singleton reached
      rw [toList_cut found] at increasing ⊢
      rw [valueAlong_append_cons increasing begun]
      exact held.symm
  | between position sample next found following begun ahead =>
      rw [toList_cut found, drop_cut following] at increasing ⊢
      have apart : ¬next.1 ≤ sample.1 := fun reached =>
        not_le_of_lt (lt_of_lt_of_le begun (le_of_lt ahead)) reached
      have notHeld : ¬(time == sample.1 || decide (next.1 ≤ sample.1)) = true := by
        rw [Bool.or_eq_true, decide_eq_true_iff, beq_iff]
        rintro (same | reached)
        · exact not_le_of_lt begun same.1
        · exact apart reached
      rw [valueAlong_between increasing (le_of_lt begun) (not_le_of_lt ahead), if_neg notHeld]
      rfl

theorem blended_iff (increasing : Increasing array.samples.toList)
    (areNumbers : ∀ sample ∈ array.samples.toList, IsNumber sample.1) (isNumber : IsNumber time)
    (notEmpty : 0 < array.samples.size) :
    Blended array time value ↔ array.sample? time = some value := by
  rw [sample?_eq_valueAlong increasing areNumbers isNumber, Option.some_inj]
  constructor
  · exact fun blended => (blended.eq_valueAlong increasing).symm
  · rintro rfl
    rcases exists_blended increasing areNumbers isNumber notEmpty with ⟨value, blended⟩
    rw [← blended.eq_valueAlong increasing]
    exact blended

/-- Samples in order of time are resampled piece by piece: at any time there is just one value that
there should be, and it is the one found. A time is strictly between two neighbours for one pair of
them only, and the position found is the last one of a sample that is no later, or the first
position if there is none. The samples come into this order however they are given. -/
theorem sample?_piecewise (array : TimeSamples α) (notEmpty : 0 < array.size)
    (increasing : array.times.Pairwise (· < ·)) (areNumbers : ∀ time ∈ array.times, IsNumber time) :
    (∀ time, IsNumber time →
      (∃ value, array.sample? time = some value ∧
        ∀ other, array.Blended time other ↔ other = value) ∧
      (∀ position sample next, array.samples[position]? = some sample →
        array.samples[position + 1]? = some next → sample.1 < time → time < next.1 →
        array.floorIndex time = position) ∧
      ((array.startedBy time).Nonempty →
        IsGreatest (array.startedBy time) (array.floorIndex time)) ∧
      (array.startedBy time = ∅ → array.floorIndex time = 0)) ∧
    ∀ pairs : List (Stamp × α), (pairs.map authored).Perm array.samples.toList →
      ofPairs pairs = array := by
  have increasingSamples : Increasing array.samples.toList := List.pairwise_map.mp increasing
  have sampleNumbers : ∀ sample ∈ array.samples.toList, IsNumber sample.1 := fun sample member =>
    areNumbers sample.1 (List.mem_map_of_mem member)
  refine ⟨fun time isNumber => ⟨?_, ?_, ?_, ?_⟩, fun pairs => ofPairs_eq increasingSamples⟩
  · have isValue (value : α) : Blended array time value ↔ array.sample? time = some value :=
      blended_iff increasingSamples sampleNumbers isNumber notEmpty
    rcases exists_blended increasingSamples sampleNumbers isNumber notEmpty with ⟨value, blended⟩
    have found := (isValue value).mp blended
    refine ⟨value, found, fun other => ?_⟩
    rw [isValue, found, Option.some_inj, eq_comm]
  · intro position sample next found following begun ahead
    exact floorIndex_eq increasingSamples found (le_of_lt begun) following (not_le_of_lt ahead)
  · exact isGreatest_floorIndex increasingSamples
  · exact floorIndex_eq_zero increasingSamples notEmpty

def aroundFrame : TimeSamples Value :=
  ofParts [-1, 0, 2] [.single .float 4, .single .float 6, .single .float 1]

def aroundFramePairs : List (Stamp × Value) :=
  [(.ofTime 2, .single .float 1), (.ofTime 0, .single .float 6), (.ofTime (-1), .single .float 4)]

theorem sample?_piecewise_aroundFrame :
    0 < aroundFrame.size ∧ aroundFrame.times.Pairwise (· < ·) ∧
      (∀ time ∈ aroundFrame.times, IsNumber time) ∧ IsNumber 0.5 ∧
      aroundFrame.sample? 0.5 =
        some (Blend.blend (.single .float 6) (.single .float 1) ((0.5 - 0) / (2 - 0))) ∧
      aroundFrame.floorIndex 0.5 = 1 ∧ ofPairs aroundFramePairs = aroundFrame := by
  have notEmpty : 0 < aroundFrame.size := by decide
  have increasing : aroundFrame.times.Pairwise (· < ·) := by decide +kernel
  have bounded : ∀ time ∈ aroundFrame.times, time ≤ 2 := by decide +kernel
  have areNumbers := areNumbers_of_le bounded
  have begun : (0 : Float32) < 0.5 := by decide +kernel
  have ahead : (0.5 : Float32) < 2 := by decide +kernel
  rcases sample?_piecewise aroundFrame notEmpty increasing areNumbers with ⟨atTimes, given⟩
  rcases atTimes 0.5 (lt_iff.mp ahead).1 with ⟨⟨value, found, isValue⟩, between, _, _⟩
  have blended := (isValue _).mp (.between 1 _ _ rfl rfl begun ahead)
  refine ⟨notEmpty, increasing, areNumbers, (lt_iff.mp ahead).1, ?_, ?_, given _ ?_⟩
  · rw [found, ← blended]
    rfl
  · exact between 1 _ _ rfl rfl begun ahead
  · have reversed : aroundFramePairs.map authored = aroundFrame.samples.toList.reverse := by
      rfl
    rw [reversed]
    exact List.reverse_perm _

end LayeredScene.TimeSamples
