import LayeredScene.Proofs.TimeSamples.Resampling
import LayeredScene.Search.Cutting
import Mathlib.Data.List.Basic

/-! # Samples that contribute

The times gathered for a span are those that values inside the span depend on: the last one before
it, those in it and the first one from its end on. Samples at other times can be left out without a
change of any value in the span.
-/

namespace LayeredScene.TimeSamples

open TimeOrder

/-! ## The ends of a list in order -/

section Ends

variable {α : Type} {before : α → α → Prop} {values : List α} {value : α}

theorem head?_eq_some_iff_none_before
    (asymmetric : ∀ first second, before first second → ¬before second first)
    (ordered : values.Pairwise before) :
    values.head? = some value ↔ value ∈ values ∧ ∀ other ∈ values, ¬before other value := by
  cases values with
  | nil => simp
  | cons first values =>
      have parts := List.pairwise_cons.mp ordered
      rw [List.head?_cons, Option.some_inj]
      constructor
      · rintro rfl
        refine ⟨List.mem_cons_self, fun other member => ?_⟩
        rcases List.mem_cons.mp member with rfl | member
        · exact fun itself => asymmetric _ _ itself itself
        · exact asymmetric _ _ (parts.1 other member)
      · rintro ⟨member, noneBefore⟩
        rcases List.mem_cons.mp member with rfl | member
        · rfl
        · exact absurd (parts.1 value member) (noneBefore first List.mem_cons_self)

theorem getLast?_eq_some_iff_none_after
    (asymmetric : ∀ first second, before first second → ¬before second first)
    (ordered : values.Pairwise before) :
    values.getLast? = some value ↔ value ∈ values ∧ ∀ other ∈ values, ¬before value other := by
  have reversed : values.reverse.Pairwise fun first second => before second first :=
    List.pairwise_reverse.mpr ordered
  rw [← List.head?_reverse, head?_eq_some_iff_none_before (fun _ _ => asymmetric _ _) reversed]
  simp only [List.mem_reverse]

end Ends

variable {times kept earlier later : List Float32} {start finish time : Float32}

/-! ## The times around a span -/

/-- A time that values from `start` to `finish` depend on: it lies in the span, or no other one of
the times is nearer to it on that side. -/
def BearsOn (times : List Float32) (start finish time : Float32) : Prop :=
  start ≤ time ∧ time ≤ finish ∨
    (time < start ∧ ∀ other ∈ times, other < start → ¬time < other) ∨
    (finish ≤ time ∧ ∀ other ∈ times, finish ≤ other → ¬other < time)

def timesBefore (times : List Float32) (start : Float32) : List Float32 :=
  times.filter fun time => time < start

def timesWithin (times : List Float32) (start finish : Float32) : List Float32 :=
  times.filter fun time => start ≤ time ∧ time < finish

def timesFrom (times : List Float32) (finish : Float32) : List Float32 :=
  times.filter fun time => finish ≤ time

theorem isNumber_of_mem (increasing : times.Pairwise (· < ·)) (several : 2 ≤ times.length)
    (member : time ∈ times) : IsNumber time := by
  rcases List.mem_iff_getElem.mp member with ⟨position, inside, rfl⟩
  rw [List.pairwise_iff_getElem] at increasing
  cases position with
  | zero => exact (lt_iff.mp (increasing 0 1 inside several Nat.zero_lt_one)).1
  | succ position =>
      exact (lt_iff.mp (increasing 0 (position + 1) (by omega) inside (Nat.succ_pos _))).2.1

theorem cut_at_span (increasing : times.Pairwise (· < ·))
    (areNumbers : ∀ time ∈ times, IsNumber time) (ordered : start ≤ finish) :
    timesBefore times start ++ (timesWithin times start finish ++ timesFrom times finish) =
      times := by
  have bounds := le_iff.mp ordered
  have beforeDownward : times.Pairwise fun earlier later =>
      decide (later < start) = true → decide (earlier < start) = true := by
    apply increasing.imp
    intro earlier later less
    simpa using lt_trans less
  have shortDownward : (times.filter fun time => !decide (time < start)).Pairwise fun earlier later =>
      decide (later < finish) = true → decide (earlier < finish) = true := by
    apply (increasing.filter _).imp
    intro earlier later less
    simpa using lt_trans less
  have within : (times.filter fun time => !decide (time < start)).filter
      (fun time => decide (time < finish)) = timesWithin times start finish := by
    rw [List.filter_filter]
    apply List.filter_congr
    intro time member
    simp [← not_lt_iff (areNumbers time member) bounds.1, Bool.and_comm]
  have onward : (times.filter fun time => !decide (time < start)).filter
      (fun time => !decide (time < finish)) = timesFrom times finish := by
    rw [List.filter_filter]
    apply List.filter_congr
    intro time member
    have isNumber := areNumbers time member
    simp only [← decide_not, not_lt_iff isNumber bounds.1, not_lt_iff isNumber bounds.2.1]
    simpa using le_trans ordered
  rw [← within, ← onward, filter_append_filter_not shortDownward]
  exact filter_append_filter_not beforeDownward

/-! ## Gathering -/

theorem gather_append (notReached : ∀ time ∈ earlier, ¬finish ≤ time) :
    gather start finish kept (earlier ++ later) =
      gather start finish (gather start finish kept earlier) later := by
  induction earlier generalizing kept with
  | nil => rfl
  | cons time earlier induction =>
      have parts := List.forall_mem_cons.mp notReached
      rw [List.cons_append, gather, gather, if_neg parts.1, if_neg parts.1, induction parts.2]

theorem gather_before (before : ∀ time ∈ times, time < start)
    (notReached : ∀ time ∈ times, ¬finish ≤ time) :
    gather start finish [] times = times.getLast?.toList := by
  rcases List.eq_nil_or_concat' times with rfl | ⟨earlier, last, rfl⟩
  · rfl
  · rw [gather_append fun time member => notReached time (List.mem_append_left _ member), gather,
      if_pos (before last (by simp)), gather, ite_self, List.getLast?_concat]
    rfl

theorem gather_within (begun : ∀ time ∈ times, ¬time < start)
    (notReached : ∀ time ∈ times, ¬finish ≤ time) :
    gather start finish kept times = kept ++ times := by
  induction times generalizing kept with
  | nil => rw [gather, List.append_nil]
  | cons time times induction =>
      have begunParts := List.forall_mem_cons.mp begun
      have notReachedParts := List.forall_mem_cons.mp notReached
      rw [gather, if_neg begunParts.1, if_neg notReachedParts.1,
        induction begunParts.2 notReachedParts.2, List.append_assoc, List.singleton_append]

theorem gather_from (begun : ∀ time ∈ times, ¬time < start)
    (reached : ∀ time ∈ times, finish ≤ time) :
    gather start finish kept times = kept ++ times.head?.toList := by
  cases times with
  | nil => rw [gather, List.head?_nil, Option.toList_none, List.append_nil]
  | cons time times =>
      rw [gather, if_neg (begun time List.mem_cons_self), if_pos (reached time List.mem_cons_self)]
      rfl

theorem gather_eq (increasing : times.Pairwise (· < ·))
    (areNumbers : ∀ time ∈ times, IsNumber time) (ordered : start ≤ finish) :
    gather start finish [] times = (timesBefore times start).getLast?.toList ++
      (timesWithin times start finish ++ (timesFrom times finish).head?.toList) := by
  have before : ∀ time ∈ timesBefore times start, time < start := by simp [timesBefore]
  have within : ∀ time ∈ timesWithin times start finish, start ≤ time ∧ time < finish := by
    simp [timesWithin]
  have onward : ∀ time ∈ timesFrom times finish, finish ≤ time := by simp [timesFrom]
  have beforeNotReached : ∀ time ∈ timesBefore times start, ¬finish ≤ time := fun time member =>
    not_le_of_lt (lt_of_lt_of_le (before time member) ordered)
  have withinBegun : ∀ time ∈ timesWithin times start finish, ¬time < start := fun time member less =>
    not_le_of_lt less (within time member).1
  have withinNotReached : ∀ time ∈ timesWithin times start finish, ¬finish ≤ time :=
    fun time member => not_le_of_lt (within time member).2
  have onwardBegun : ∀ time ∈ timesFrom times finish, ¬time < start := fun time member less =>
    not_le_of_lt less (le_trans ordered (onward time member))
  have cut := cut_at_span increasing areNumbers ordered
  calc gather start finish [] times
      = gather start finish [] (timesBefore times start ++
          (timesWithin times start finish ++ timesFrom times finish)) := by rw [cut]
    _ = _ := by
      rw [gather_append beforeNotReached, gather_before before beforeNotReached,
        gather_append withinNotReached, gather_within withinBegun withinNotReached,
        gather_from onwardBegun onward, List.append_assoc]

theorem mem_gather_iff (increasing : times.Pairwise (· < ·))
    (areNumbers : ∀ time ∈ times, IsNumber time) (ordered : start ≤ finish)
    (member : time ∈ times) :
    time ∈ gather start finish [] times ↔ BearsOn times start finish time := by
  have asymmetric : ∀ first second : Float32, first < second → ¬second < first :=
    fun _ _ before after => not_le_of_lt before (le_of_lt after)
  have isLast : time ∈ (timesBefore times start).getLast?.toList ↔
      time < start ∧ ∀ other ∈ times, other < start → ¬time < other := by
    rw [timesBefore, Option.mem_toList,
      getLast?_eq_some_iff_none_after asymmetric (increasing.filter _)]
    simp [member]
  have isFirst : time ∈ (timesFrom times finish).head?.toList ↔
      finish ≤ time ∧ ∀ other ∈ times, finish ≤ other → ¬other < time := by
    rw [timesFrom, Option.mem_toList,
      head?_eq_some_iff_none_before asymmetric (increasing.filter _)]
    simp [member]
  have isWithin : time ∈ timesWithin times start finish ↔ start ≤ time ∧ time < finish := by
    simp [timesWithin, member]
  rw [gather_eq increasing areNumbers ordered, List.mem_append, List.mem_append, isLast, isFirst,
    isWithin, BearsOn]
  constructor
  · rintro (last | ⟨begun, short⟩ | first)
    · exact Or.inr (Or.inl last)
    · exact Or.inl ⟨begun, le_of_lt short⟩
    · exact Or.inr (Or.inr first)
  · rintro (⟨begun, atMost⟩ | last | first)
    · by_cases short : time < finish
      · exact Or.inr (Or.inl ⟨begun, short⟩)
      · -- the time is the end of the span, so that none from there on comes before it
        have reached := (not_lt_iff (areNumbers time member) (le_iff.mp ordered).2.1).mp short
        exact Or.inr (Or.inr ⟨reached, fun other _ otherReached less =>
          not_le_of_lt (lt_of_lt_of_le less atMost) otherReached⟩)
    · exact Or.inl last
    · exact Or.inr (Or.inr first)

/-! ## Leaving samples out -/

theorem exists_run (increasing : times.Pairwise (· < ·))
    (areNumbers : ∀ time ∈ times, IsNumber time) (ordered : start ≤ finish) :
    ∃ earlier later, earlier ++ (gather start finish [] times ++ later) = times ∧
      (earlier = [] ∨ ∃ time < start, (gather start finish [] times).head? = some time) ∧
      (later = [] ∨ ∃ time, finish ≤ time ∧ (gather start finish [] times).getLast? = some time) := by
  have lastKept : ∃ earlier, earlier ++ (timesBefore times start).getLast?.toList =
      timesBefore times start ∧
      (earlier = [] ∨ ∃ time < start, (timesBefore times start).getLast? = some time) := by
    have before : ∀ time ∈ timesBefore times start, time < start := by simp [timesBefore]
    rcases List.eq_nil_or_concat' (timesBefore times start) with nothing | ⟨earlier, last, cut⟩
    · exact ⟨[], by simp [nothing], Or.inl rfl⟩
    · rw [cut] at before ⊢
      exact ⟨earlier, by simp, Or.inr ⟨last, before last (by simp), by simp⟩⟩
  have firstKept : ∃ later, (timesFrom times finish).head?.toList ++ later =
      timesFrom times finish ∧
      (later = [] ∨ ∃ time, finish ≤ time ∧ (timesFrom times finish).head? = some time) := by
    have reached : ∀ time ∈ timesFrom times finish, finish ≤ time := by simp [timesFrom]
    cases cut : timesFrom times finish with
    | nil => exact ⟨[], by simp, Or.inl rfl⟩
    | cons first later =>
        rw [cut] at reached
        exact ⟨later, by simp, Or.inr ⟨first, reached first (by simp), by simp⟩⟩
  rcases lastKept with ⟨earlier, earlierCut, earlierEnds⟩
  rcases firstKept with ⟨later, laterCut, laterBegins⟩
  rw [gather_eq increasing areNumbers ordered]
  refine ⟨earlier, later, ?_, earlierEnds.imp_right ?_, laterBegins.imp_right ?_⟩
  · calc _ = (earlier ++ (timesBefore times start).getLast?.toList) ++
          (timesWithin times start finish ++
            ((timesFrom times finish).head?.toList ++ later)) := by simp only [List.append_assoc]
      _ = times := by rw [earlierCut, laterCut, cut_at_span increasing areNumbers ordered]
  · rintro ⟨time, before, isLast⟩
    exact ⟨time, before, by simp [isLast]⟩
  · rintro ⟨time, reached, isFirst⟩
    exact ⟨time, reached, by simp [isFirst]⟩

section Values

variable {α : Type} {array : TimeSamples α} {run before after : List (Float32 × α)}

def restrictedTo (array : TimeSamples α) (times : List Float32) : TimeSamples α :=
  ⟨array.samples.filter fun sample => times.contains sample.1⟩

theorem toList_restrictedTo (increasing : Increasing array.samples.toList)
    (areNumbers : ∀ sample ∈ array.samples.toList, IsNumber sample.1)
    (cut : before ++ (run ++ after) = array.samples.toList) :
    (array.restrictedTo (run.map (·.1))).samples.toList = run := by
  have contains_iff (sample : Float32 × α) :
      (run.map (·.1)).contains sample.1 = true ↔ ∃ other ∈ run, (sample.1 == other.1) = true := by
    simp [List.contains_eq_any_beq]
  rw [← cut] at increasing areNumbers
  have parts := List.pairwise_append.mp increasing
  have partsAfter := List.pairwise_append.mp parts.2.1
  rw [restrictedTo, Array.toList_filter, ← cut, List.filter_append, List.filter_append]
  have noneBefore : before.filter (fun sample => (run.map (·.1)).contains sample.1) = [] := by
    apply List.filter_eq_nil_iff.mpr
    intro sample member found
    rcases (contains_iff sample).mp found with ⟨other, otherMember, same⟩
    have less := parts.2.2 sample member other (List.mem_append_left _ otherMember)
    exact not_le_of_lt less (beq_iff.mp same).2
  have noneAfter : after.filter (fun sample => (run.map (·.1)).contains sample.1) = [] := by
    apply List.filter_eq_nil_iff.mpr
    intro sample member found
    rcases (contains_iff sample).mp found with ⟨other, otherMember, same⟩
    have less := partsAfter.2.2 other otherMember sample member
    exact not_le_of_lt less (beq_iff.mp same).1
  have allKept : run.filter (fun sample => (run.map (·.1)).contains sample.1) = run := by
    apply List.filter_eq_self.mpr
    intro sample member
    have itself := le_refl (areNumbers sample (by simp [member]))
    exact (contains_iff sample).mpr ⟨sample, member, beq_iff.mpr ⟨itself, itself⟩⟩
  rw [noneBefore, noneAfter, allKept, List.nil_append, List.append_nil]

variable [Inhabited α] [Blend α]

theorem valueAlong_run (increasing : Increasing (before ++ (run ++ after)))
    (begun : before = [] ∨ ∃ first ≤ time, (run.map (·.1)).head? = some first)
    (reached : after = [] ∨ ∃ last, time ≤ last ∧ (run.map (·.1)).getLast? = some last) :
    valueAlong time (before ++ (run ++ after)) = valueAlong time run := by
  have fromRun : valueAlong time (before ++ (run ++ after)) = valueAlong time (run ++ after) := by
    rcases begun with rfl | ⟨_, begun, isFirst⟩
    · rfl
    · rw [List.head?_map, Option.map_eq_some_iff] at isFirst
      rcases isFirst with ⟨first, isFirst, rfl⟩
      rcases List.head?_eq_some_iff.mp isFirst with ⟨rest, rfl⟩
      exact valueAlong_append_cons increasing begun
  rw [fromRun]
  rcases reached with rfl | ⟨_, reached, isLast⟩
  · rw [List.append_nil]
  · rw [List.getLast?_map, Option.map_eq_some_iff] at isLast
    rcases isLast with ⟨last, isLast, rfl⟩
    rcases List.getLast?_eq_some_iff.mp isLast with ⟨rest, rfl⟩
    rw [List.append_assoc, List.singleton_append]
    exact valueAlong_append_singleton reached

theorem sample?_restrictedTo (increasing : Increasing array.samples.toList)
    (areNumbers : ∀ sample ∈ array.samples.toList, IsNumber sample.1)
    (cut : before ++ (run ++ after) = array.samples.toList) (isNumber : IsNumber time)
    (begun : before = [] ∨ ∃ first ≤ time, (run.map (·.1)).head? = some first)
    (reached : after = [] ∨ ∃ last, time ≤ last ∧ (run.map (·.1)).getLast? = some last) :
    (array.restrictedTo (run.map (·.1))).sample? time = array.sample? time := by
  have restricted := toList_restrictedTo increasing areNumbers cut
  have runIncreasing : Increasing run := by
    rw [← cut] at increasing
    exact (List.pairwise_append.mp (List.pairwise_append.mp increasing).2.1).1
  have runNumbers : ∀ sample ∈ run, IsNumber sample.1 := fun sample member =>
    areNumbers sample (by rw [← cut]; simp [member])
  rw [← restricted] at runIncreasing runNumbers
  rw [sample?_eq_valueAlong runIncreasing runNumbers isNumber,
    sample?_eq_valueAlong increasing areNumbers isNumber, restricted, ← cut]
  rw [← cut] at increasing
  rw [valueAlong_run increasing begun reached]

/-- The times gathered for a span are a run of the authored ones and just those that bear on it, and
with them alone the values at all times in the span are the same. -/
theorem contributingTimes_suffice (array : TimeSamples α) (several : 2 ≤ array.size)
    (increasing : array.times.Pairwise (· < ·)) (ordered : start ≤ finish) :
    ∃ kept, array.contributingTimes start finish = some kept ∧ kept ≠ [] ∧ kept <:+: array.times ∧
      (∀ time ∈ array.times, time ∈ kept ↔ BearsOn array.times start finish time) ∧
      ∀ time, start ≤ time → time ≤ finish → ∃ value, array.sample? time = some value ∧
        (array.restrictedTo kept).sample? time = some value := by
  have counted : array.times.length = array.size := by simp [times, size]
  have increasingSamples : Increasing array.samples.toList := List.pairwise_map.mp increasing
  have areNumbers : ∀ time ∈ array.times, IsNumber time := fun time =>
    isNumber_of_mem increasing (counted ▸ several)
  have sampleNumbers : ∀ sample ∈ array.samples.toList, IsNumber sample.1 := fun sample member =>
    areNumbers sample.1 (List.mem_map_of_mem member)
  rcases exists_run increasing areNumbers ordered with ⟨earlier, later, cut, begun, reached⟩
  refine ⟨gather start finish [] array.times, ?_, ?_, ⟨earlier, later, ?_⟩, ?_, ?_⟩
  · rw [contributingTimes, contributing, if_neg (by omega)]
  · intro nothing
    rw [nothing] at begun reached cut
    have noneBefore : earlier = [] := by simpa using begun
    have noneAfter : later = [] := by simpa using reached
    rw [← cut, noneBefore, noneAfter] at counted
    simp only [List.nil_append, List.length_nil] at counted
    omega
  · rw [List.append_assoc, cut]
  · exact fun time member => mem_gather_iff increasing areNumbers ordered member
  · intro time fromStart toFinish
    have isNumber : IsNumber time := (le_iff.mp fromStart).2.1
    -- the samples are cut where their times are
    rcases List.map_eq_append_iff.mp cut.symm with ⟨before, rest, samplesCut, rfl, restTimes⟩
    rcases List.map_eq_append_iff.mp restTimes with ⟨run, after, rfl, runTimes, rfl⟩
    rw [List.map_eq_nil_iff] at begun reached
    rw [← runTimes] at begun reached ⊢
    have found := sample?_eq_valueAlong increasingSamples sampleNumbers isNumber
    refine ⟨_, found, ?_⟩
    rw [← found]
    apply sample?_restrictedTo increasingSamples sampleNumbers samplesCut.symm isNumber
    · exact begun.imp_right fun ⟨first, less, isFirst⟩ =>
        ⟨first, le_of_lt (lt_of_lt_of_le less fromStart), isFirst⟩
    · exact reached.imp_right fun ⟨last, atLeast, isLast⟩ =>
        ⟨last, le_trans toFinish atLeast, isLast⟩

end Values

def fiveSamples : TimeSamples Value :=
  ofParts [0, 1, 2, 3, 4] [.single .float 5, .single .float 1, .single .float 7, .single .float 2,
    .single .float 3]

theorem contributingTimes_suffice_fiveSamples :
    2 ≤ fiveSamples.size ∧ fiveSamples.times.Pairwise (· < ·) ∧ (1.5 : Float32) ≤ 3 ∧
      fiveSamples.contributingTimes 1.5 3 = some [1, 2, 3] ∧
      ∀ time, 1.5 ≤ time → time ≤ 3 → ∃ value, fiveSamples.sample? time = some value ∧
        (fiveSamples.restrictedTo [1, 2, 3]).sample? time = some value := by
  have several : 2 ≤ fiveSamples.size := by decide
  have increasing : fiveSamples.times.Pairwise (· < ·) := by decide +kernel
  have ordered : (1.5 : Float32) ≤ 3 := by decide +kernel
  have gathered : fiveSamples.contributingTimes 1.5 3 = some [1, 2, 3] := by decide +kernel
  rcases contributingTimes_suffice fiveSamples several increasing ordered with
    ⟨kept, found, _, _, _, same⟩
  rw [Option.some_inj.mp (found.symm.trans gathered)] at same
  exact ⟨several, increasing, ordered, gathered, same⟩

end LayeredScene.TimeSamples
