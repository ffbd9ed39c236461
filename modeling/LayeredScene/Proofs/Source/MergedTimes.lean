import LayeredScene.Proofs.Source.Lockstep
import LayeredScene.Source.Retained
import LayeredScene.Source.Times
import LayeredScene.TimeSamples.Order
import Mathlib.Data.List.Sort

/-! # Merged times

What several sources report is united two lists at a time. The union is as much in order as what it
is made of, it has all reported times and no others, and it does not matter in which order the
sources come. The two zeros count as one time.
-/

namespace LayeredScene

open TimeOrder

variable {times others : List Float32} {time other : Float32}

structure Ascends (before : Float32 → Float32 → Prop) (times : List Float32) : Prop where
  areNumbers : ∀ time ∈ times, IsNumber time
  ordered : times.Pairwise before

/-- An order that holds where a time is before another, and that does not tell times of one rank
apart. -/
structure RespectsRank (before : Float32 → Float32 → Prop) : Prop where
  of_lt : ∀ first second, first < second → before first second
  of_le : ∀ first second third, first ≤ second → before second third → before first third

theorem respectsRank_le : RespectsRank (· ≤ ·) where
  of_lt _ _ := le_of_lt
  of_le _ _ _ := le_trans

theorem respectsRank_lt : RespectsRank (· < ·) where
  of_lt _ _ := id
  of_le _ _ _ := lt_of_le_of_lt

/-! ## The union of two lists -/

theorem mem_or_mem_of_mem_uniteTimes (member : time ∈ uniteTimes times others) :
    time ∈ times ∨ time ∈ others := by
  fun_induction uniteTimes times others with
  | case1 others => exact Or.inr member
  | case2 times => exact Or.inl member
  | case3 first rest second others less induction =>
      rcases List.mem_cons.mp member with rfl | later
      · exact Or.inl List.mem_cons_self
      · exact (induction later).imp_left (List.mem_cons_of_mem _)
  | case4 first rest second others notLess less induction =>
      rcases List.mem_cons.mp member with rfl | later
      · exact Or.inr List.mem_cons_self
      · exact (induction later).imp_right (List.mem_cons_of_mem _)
  | case5 first rest second others notLess notGreater induction =>
      rcases List.mem_cons.mp member with rfl | later
      · exact Or.inl List.mem_cons_self
      · exact (induction later).imp (List.mem_cons_of_mem _) (List.mem_cons_of_mem _)

theorem forall_mem_uniteTimes {holds : Float32 → Prop} (ofTimes : ∀ time ∈ times, holds time)
    (ofOthers : ∀ time ∈ others, holds time) : ∀ time ∈ uniteTimes times others, holds time :=
  fun time member => (mem_or_mem_of_mem_uniteTimes member).elim (ofTimes time) (ofOthers time)

theorem beq_eq_beq {first second : Float32} (notAfter : first ≤ second)
    (notBefore : second ≤ first) : (time == first) = (time == second) := by
  rw [Bool.eq_iff_iff, beq_iff, beq_iff]
  constructor
  · exact fun same => ⟨le_trans same.1 notAfter, le_trans notBefore same.2⟩
  · exact fun same => ⟨le_trans same.1 notBefore, le_trans notAfter same.2⟩

theorem contains_uniteTimes (areNumbers : ∀ time ∈ times, IsNumber time)
    (otherNumbers : ∀ time ∈ others, IsNumber time) :
    (uniteTimes times others).contains time = (times.contains time || others.contains time) := by
  fun_induction uniteTimes times others with
  | case1 others => rfl
  | case2 times => exact (Bool.or_false _).symm
  | case3 first rest second others less induction =>
      have parts := List.forall_mem_cons.mp areNumbers
      simp only [List.contains_cons, induction parts.2 otherNumbers, Bool.or_assoc]
  | case4 first rest second others notLess less induction =>
      have parts := List.forall_mem_cons.mp otherNumbers
      simp only [List.contains_cons, induction areNumbers parts.2, Bool.or_left_comm, Bool.or_assoc]
  | case5 first rest second others notLess notGreater induction =>
      have parts := List.forall_mem_cons.mp areNumbers
      have otherParts := List.forall_mem_cons.mp otherNumbers
      have same : (time == second) = (time == first) :=
        beq_eq_beq ((not_lt_iff parts.1 otherParts.1).mp notLess)
          ((not_lt_iff otherParts.1 parts.1).mp notGreater)
      rw [List.contains_cons, induction parts.2 otherParts.2, List.contains_cons,
        List.contains_cons, same]
      cases time == first <;> rfl

section Order

variable {before : Float32 → Float32 → Prop} {first second : Float32}

theorem RespectsRank.before_mem (respects : RespectsRank before) (less : first < second)
    (ordered : (second :: others).Pairwise before) :
    ∀ time ∈ second :: others, before first time := by
  have parts := List.pairwise_cons.mp ordered
  apply List.forall_mem_cons.mpr ⟨respects.of_lt _ _ less, ?_⟩
  exact fun time member => respects.of_le _ _ _ (le_of_lt less) (parts.1 time member)

theorem pairwise_uniteTimes (respects : RespectsRank before)
    (areNumbers : ∀ time ∈ times, IsNumber time) (otherNumbers : ∀ time ∈ others, IsNumber time)
    (ordered : times.Pairwise before) (otherOrdered : others.Pairwise before) :
    (uniteTimes times others).Pairwise before := by
  fun_induction uniteTimes times others with
  | case1 others => exact otherOrdered
  | case2 times => exact ordered
  | case3 first rest second others less induction =>
      have parts := List.pairwise_cons.mp ordered
      have numbers := List.forall_mem_cons.mp areNumbers
      apply List.pairwise_cons.mpr ⟨?_, induction numbers.2 otherNumbers parts.2 otherOrdered⟩
      exact forall_mem_uniteTimes parts.1 (respects.before_mem less otherOrdered)
  | case4 first rest second others notLess less induction =>
      have parts := List.pairwise_cons.mp otherOrdered
      have numbers := List.forall_mem_cons.mp otherNumbers
      apply List.pairwise_cons.mpr ⟨?_, induction areNumbers numbers.2 ordered parts.2⟩
      exact forall_mem_uniteTimes (respects.before_mem less ordered) parts.1
  | case5 first rest second others notLess notGreater induction =>
      have parts := List.pairwise_cons.mp ordered
      have otherParts := List.pairwise_cons.mp otherOrdered
      have numbers := List.forall_mem_cons.mp areNumbers
      have otherNumbers := List.forall_mem_cons.mp otherNumbers
      have notAfter := (not_lt_iff otherNumbers.1 numbers.1).mp notGreater
      apply List.pairwise_cons.mpr
        ⟨?_, induction numbers.2 otherNumbers.2 parts.2 otherParts.2⟩
      apply forall_mem_uniteTimes parts.1
      exact fun time member => respects.of_le _ _ _ notAfter (otherParts.1 time member)

theorem Ascends.uniteTimes (respects : RespectsRank before) (ascends : Ascends before times)
    (otherAscends : Ascends before others) : Ascends before (uniteTimes times others) where
  areNumbers := forall_mem_uniteTimes ascends.areNumbers otherAscends.areNumbers
  ordered := pairwise_uniteTimes respects ascends.areNumbers otherAscends.areNumbers
    ascends.ordered otherAscends.ordered

end Order

/-! ## The union of all reports -/

section Reports

variable {report : Option (List Float32)} {reports : List (Option (List Float32))}
  {lists : List (List Float32)} {union : List Float32}

theorem changingTimes_eq_none_iff :
    changingTimes report = none ↔ report = none ∨ report = some [] := by
  rcases report with _ | _ | ⟨time, rest⟩ <;> simp [changingTimes]

theorem changingTimes_eq_some_iff :
    changingTimes report = some times ↔ report = some times ∧ times ≠ [] := by
  rcases report with _ | _ | ⟨time, rest⟩
  · simp [changingTimes]
  · simp [changingTimes]
  · simp only [changingTimes, Option.some_inj]
    constructor
    · rintro rfl
      exact ⟨rfl, List.cons_ne_nil _ _⟩
    · exact fun same => same.1

def uniteAll : List (List Float32) → Option (List Float32)
  | [] => none
  | first :: rest => some (rest.foldl uniteTimes first)

theorem uniteReports_of_unchanging (merged : Option (List Float32))
    (unchanging : changingTimes report = none) : uniteReports merged report = merged := by
  unfold uniteReports
  rw [unchanging]

theorem uniteReports_none (changes : changingTimes report = some times) :
    uniteReports none report = some times := by
  unfold uniteReports
  rw [changes]

theorem uniteReports_some (present : List Float32) (changes : changingTimes report = some times) :
    uniteReports (some present) report = some (uniteTimes present times) := by
  unfold uniteReports
  rw [changes]

theorem foldl_uniteReports_some (reports : List (Option (List Float32))) (present : List Float32) :
    reports.foldl uniteReports (some present) =
      some ((reports.filterMap changingTimes).foldl uniteTimes present) := by
  induction reports generalizing present with
  | nil => rfl
  | cons report reports induction =>
      cases changes : changingTimes report with
      | none =>
          rw [List.foldl_cons, uniteReports_of_unchanging _ changes,
            List.filterMap_cons_none changes, induction]
      | some times =>
          rw [List.foldl_cons, uniteReports_some present changes,
            List.filterMap_cons_some changes, induction, List.foldl_cons]

theorem foldl_uniteReports (reports : List (Option (List Float32))) :
    reports.foldl uniteReports none = uniteAll (reports.filterMap changingTimes) := by
  induction reports with
  | nil => rfl
  | cons report reports induction =>
      cases changes : changingTimes report with
      | none =>
          rw [List.foldl_cons, uniteReports_of_unchanging _ changes,
            List.filterMap_cons_none changes, induction]
      | some times =>
          rw [List.foldl_cons, uniteReports_none changes, foldl_uniteReports_some,
            List.filterMap_cons_some changes, uniteAll]

theorem ascends_foldl {before : Float32 → Float32 → Prop} (respects : RespectsRank before)
    (ascends : Ascends before times) (allAscend : ∀ list ∈ lists, Ascends before list) :
    Ascends before (lists.foldl uniteTimes times) := by
  induction lists generalizing times with
  | nil => exact ascends
  | cons list lists induction =>
      have parts := List.forall_mem_cons.mp allAscend
      exact induction (ascends.uniteTimes respects parts.1) parts.2

theorem mem_foldl_uniteTimes (member : time ∈ lists.foldl uniteTimes times) :
    ∃ list ∈ times :: lists, time ∈ list := by
  induction lists generalizing times with
  | nil => exact ⟨times, List.mem_cons_self, member⟩
  | cons list lists induction =>
      rcases induction member with ⟨found, isFound, inFound⟩
      rcases List.mem_cons.mp isFound with rfl | later
      · rcases mem_or_mem_of_mem_uniteTimes inFound with inTimes | inList
        · exact ⟨times, by simp, inTimes⟩
        · exact ⟨list, by simp, inList⟩
      · exact ⟨found, by simp [later], inFound⟩

theorem contains_foldl_uniteTimes (areNumbers : ∀ time ∈ times, IsNumber time)
    (allNumbers : ∀ list ∈ lists, ∀ time ∈ list, IsNumber time) :
    (lists.foldl uniteTimes times).contains time = true ↔
      ∃ list ∈ times :: lists, list.contains time = true := by
  induction lists generalizing times with
  | nil => simp
  | cons list lists induction =>
      have parts := List.forall_mem_cons.mp allNumbers
      have uniteNumbers := forall_mem_uniteTimes areNumbers parts.1
      rw [List.foldl_cons, induction uniteNumbers parts.2]
      simp only [List.exists_mem_cons_iff, contains_uniteTimes areNumbers parts.1, Bool.or_eq_true,
        or_assoc]

theorem mem_filterMap_changingTimes :
    times ∈ reports.filterMap changingTimes ↔ some times ∈ reports ∧ times ≠ [] := by
  rw [List.mem_filterMap]
  constructor
  · rintro ⟨report, member, changes⟩
    rcases changingTimes_eq_some_iff.mp changes with ⟨rfl, notEmpty⟩
    exact ⟨member, notEmpty⟩
  · rintro ⟨member, notEmpty⟩
    exact ⟨some times, member, changingTimes_eq_some_iff.mpr ⟨rfl, notEmpty⟩⟩

/-- What reports come to: nothing if none of them has a time, and else all reported times and no
others, as much in order as they are reported. -/
structure IsUnion (reports : List (Option (List Float32))) (merged : Option (List Float32)) :
    Prop where
  eq_none_iff : merged = none ↔ ∀ report ∈ reports, report = none ∨ report = some []
  reported : ∀ union, merged = some union →
    ∀ time ∈ union, ∃ times, some times ∈ reports ∧ time ∈ times
  complete : (∀ times, some times ∈ reports → Ascends (· ≤ ·) times) →
    ∀ union, merged = some union → Ascends (· ≤ ·) union ∧
      ∀ time, union.contains time = true ↔
        ∃ times, some times ∈ reports ∧ times.contains time = true
  strict : (∀ times, some times ∈ reports → Ascends (· < ·) times) →
    ∀ union, merged = some union → Ascends (· < ·) union

theorem exists_contains_iff :
    (∃ list ∈ reports.filterMap changingTimes, list.contains time = true) ↔
      ∃ times, some times ∈ reports ∧ times.contains time = true := by
  constructor
  · rintro ⟨list, member, found⟩
    exact ⟨list, (mem_filterMap_changingTimes.mp member).1, found⟩
  · rintro ⟨times, member, found⟩
    have notEmpty : times ≠ [] := by
      rintro rfl
      contradiction
    exact ⟨times, mem_filterMap_changingTimes.mpr ⟨member, notEmpty⟩, found⟩

theorem isUnion_foldl (reports : List (Option (List Float32))) :
    IsUnion reports (reports.foldl uniteReports none) := by
  have fromReports : ∀ list ∈ reports.filterMap changingTimes, some list ∈ reports :=
    fun list member => (mem_filterMap_changingTimes.mp member).1
  rw [foldl_uniteReports]
  cases changing : reports.filterMap changingTimes with
  | nil =>
      refine ⟨iff_of_true rfl fun report member => ?_, ?_, ?_, ?_⟩
      · exact changingTimes_eq_none_iff.mp (List.filterMap_eq_nil_iff.mp changing report member)
      all_goals intros; contradiction
  | cons first rest =>
      rw [changing] at fromReports
      have parts := List.forall_mem_cons.mp fromReports
      refine ⟨?_, ?_, ?_, ?_⟩
      · apply iff_of_false (Option.some_ne_none _)
        intro unchanging
        have isReport : first ∈ reports.filterMap changingTimes := by
          rw [changing]
          exact List.mem_cons_self
        rcases mem_filterMap_changingTimes.mp isReport with ⟨member, notEmpty⟩
        rcases unchanging _ member with absent | empty
        · contradiction
        · exact notEmpty (Option.some_inj.mp empty)
      · rintro union found time member
        cases found
        rcases mem_foldl_uniteTimes member with ⟨list, isList, inList⟩
        exact ⟨list, fromReports list isList, inList⟩
      · rintro ascend union found
        cases found
        refine ⟨ascends_foldl respectsRank_le (ascend first parts.1)
          fun list member => ascend list (parts.2 list member), fun time => ?_⟩
        rw [contains_foldl_uniteTimes (ascend first parts.1).areNumbers
          fun list member => (ascend list (parts.2 list member)).areNumbers, ← changing,
          exists_contains_iff]
      · rintro ascend union found
        cases found
        exact ascends_foldl respectsRank_lt (ascend first parts.1)
          fun list member => ascend list (parts.2 list member)

end Reports

/-! ## The order of the sources -/

theorem beq_of_map_rank_eq (areNumbers : ∀ time ∈ times, IsNumber time)
    (otherNumbers : ∀ time ∈ others, IsNumber time) (same : times.map rank = others.map rank) :
    (times == others) = true := by
  induction times generalizing others with
  | nil =>
      rw [List.map_nil, eq_comm, List.map_eq_nil_iff] at same
      rw [same]
      rfl
  | cons time times induction =>
      cases others with
      | nil => cases same
      | cons other others =>
          have parts := List.forall_mem_cons.mp areNumbers
          have otherParts := List.forall_mem_cons.mp otherNumbers
          rw [List.map_cons, List.map_cons, List.cons_eq_cons] at same
          have sameTime : (time == other) = true :=
            beq_iff.mpr ⟨le_iff.mpr ⟨parts.1, otherParts.1, same.1.le⟩,
              le_iff.mpr ⟨otherParts.1, parts.1, same.1.ge⟩⟩
          rw [List.cons_beq_cons, sameTime, induction parts.2 otherParts.2 same.2]
          rfl

theorem beq_iff_rank_eq (isNumber : IsNumber time) (otherIsNumber : IsNumber other) :
    (time == other) = true ↔ rank time = rank other := by
  rw [beq_iff, le_iff, le_iff, le_antisymm_iff]
  simp [isNumber, otherIsNumber]

theorem contains_iff_mem_map_rank (areNumbers : ∀ time ∈ times, IsNumber time)
    (isNumber : IsNumber time) : times.contains time = true ↔ rank time ∈ times.map rank := by
  rw [List.contains_eq_any_beq, List.any_eq_true, List.mem_map]
  constructor
  · rintro ⟨found, member, same⟩
    exact ⟨found, member, ((beq_iff_rank_eq isNumber (areNumbers found member)).mp same).symm⟩
  · rintro ⟨found, member, same⟩
    exact ⟨found, member, (beq_iff_rank_eq isNumber (areNumbers found member)).mpr same.symm⟩

theorem Ascends.pairwise_map_rank (ascends : Ascends (· < ·) times) :
    (times.map rank).Pairwise (· < ·) :=
  List.pairwise_map.mpr (ascends.ordered.imp fun less => (lt_iff.mp less).2.2)

theorem mem_map_rank_of_contains (areNumbers : ∀ time ∈ times, IsNumber time)
    (otherNumbers : ∀ time ∈ others, IsNumber time)
    (contained : ∀ time, times.contains time = true → others.contains time = true) :
    ∀ place ∈ times.map rank, place ∈ others.map rank := by
  rintro place member
  rcases List.mem_map.mp member with ⟨time, isTime, rfl⟩
  have isNumber := areNumbers time isTime
  have found := (contains_iff_mem_map_rank areNumbers isNumber).mpr member
  exact (contains_iff_mem_map_rank otherNumbers isNumber).mp (contained time found)

theorem beq_of_contains (ascends : Ascends (· < ·) times) (otherAscends : Ascends (· < ·) others)
    (same : ∀ time, times.contains time = true ↔ others.contains time = true) :
    (times == others) = true := by
  apply beq_of_map_rank_eq ascends.areNumbers otherAscends.areNumbers
  apply ascends.pairwise_map_rank.eq_of_mem_iff otherAscends.pairwise_map_rank
  refine fun place => ⟨?_, ?_⟩
  · exact mem_map_rank_of_contains ascends.areNumbers otherAscends.areNumbers
      (fun time => (same time).mp) place
  · exact mem_map_rank_of_contains otherAscends.areNumbers ascends.areNumbers
      (fun time => (same time).mpr) place

theorem Ascends.le_of_lt (ascends : Ascends (· < ·) times) : Ascends (· ≤ ·) times where
  areNumbers := ascends.areNumbers
  ordered := ascends.ordered.imp TimeOrder.le_of_lt

theorem IsUnion.beq_of_perm {reports otherReports : List (Option (List Float32))}
    {merged otherMerged : Option (List Float32)} (isUnion : IsUnion reports merged)
    (otherIsUnion : IsUnion otherReports otherMerged) (sameReports : otherReports.Perm reports)
    (ascend : ∀ times, some times ∈ reports → Ascends (· < ·) times) :
    (otherMerged == merged) = true := by
  have otherAscend : ∀ times, some times ∈ otherReports → Ascends (· < ·) times :=
    fun times member => ascend times (sameReports.mem_iff.mp member)
  have sameNone : otherMerged = none ↔ merged = none := by
    rw [isUnion.eq_none_iff, otherIsUnion.eq_none_iff]
    simp only [sameReports.mem_iff]
  cases merged with
  | none =>
      rw [sameNone.mpr rfl]
      rfl
  | some union =>
      cases otherMerged with
      | none => cases sameNone.mp rfl
      | some otherUnion =>
          have complete := (isUnion.complete (fun times member => (ascend times member).le_of_lt)
            union rfl).2
          have otherComplete := (otherIsUnion.complete
            (fun times member => (otherAscend times member).le_of_lt) otherUnion rfl).2
          apply beq_of_contains (otherIsUnion.strict otherAscend otherUnion rfl)
            (isUnion.strict ascend union rfl)
          intro time
          rw [complete, otherComplete]
          simp only [sameReports.mem_iff]

/-! ## Merging -/

section Merging

variable {around : Surroundings} {sort : Store → Prop} {sources : List (Option Sampled)}
  {start finish : Float32} {report : Sampled → Option (List Float32)}

def reportedTimes (sources : List (Option Sampled)) (start finish : Float32) :
    Reads (List (Option (List Float32))) :=
  Reads.each (fun source : Sampled => source.times start finish) (sources.filterMap id)

theorem mergedTimes_eq (sources : List (Option Sampled)) (start finish : Float32) :
    mergedTimes sources start finish =
      (fun reports => reports.foldl uniteReports none) <$> reportedTimes sources start finish :=
  rfl

theorem settles_reportedTimes
    (settle : ∀ source, some source ∈ sources →
      Settles around sort (source.times start finish) (report source)) :
    Settles around sort (reportedTimes sources start finish)
      ((sources.filterMap id).map report) := by
  apply Settles.each
  intro source member
  rcases List.mem_filterMap.mp member with ⟨_, isSource, rfl⟩
  exact settle source isSource

/-- Whatever the sources, what is merged is the union of what those report that are present. It is
in order as far as the reports are: where each ascends strictly so does the union, and then the same
sources in another order, each of which reports the same whenever it is asked, come to equal times.
Equal times may differ in the sign of zero, and what ascends has no times that are not numbers. -/
theorem mergedTimes_unites (sources : List (Option Sampled)) (start finish : Float32)
    (around : Surroundings) (store : Store) :
    IsUnion (reportedTimes sources start finish around store).1
        (mergedTimes sources start finish around store).1 ∧
      ∀ (sort : Store → Prop) (report : Sampled → Option (List Float32)),
        sort store →
        (∀ source, some source ∈ sources →
          Settles around sort (source.times start finish) (report source)) →
        (∀ source, some source ∈ sources → ∀ times, report source = some times →
          Ascends (· < ·) times) →
        ∀ others twin, others.Perm sources → sort twin →
          ((mergedTimes others start finish around twin).1 ==
            (mergedTimes sources start finish around store).1) = true := by
  have isUnion (sources : List (Option Sampled)) (store : Store) :
      IsUnion (reportedTimes sources start finish around store).1
        (mergedTimes sources start finish around store).1 := by
    rw [mergedTimes_eq]
    exact isUnion_foldl _
  refine ⟨isUnion sources store, ?_⟩
  intro sort report inSort settle ascend others twin reordered twinInSort
  have settleOthers : ∀ source, some source ∈ others →
      Settles around sort (source.times start finish) (report source) :=
    fun source member => settle source (reordered.mem_iff.mp member)
  have reports := (settles_reportedTimes settle store inSort).1
  have otherReports := (settles_reportedTimes settleOthers twin twinInSort).1
  apply (isUnion sources store).beq_of_perm (isUnion others twin)
  · rw [reports, otherReports]
    exact (reordered.filterMap id).map report
  · intro times member
    rw [reports] at member
    rcases List.mem_map.mp member with ⟨source, isPresent, isReport⟩
    rcases List.mem_filterMap.mp isPresent with ⟨_, isSource, rfl⟩
    exact ascend source isSource times isReport

def authoredAt (number : Nat) (times : List Float32) : Sampled :=
  .multisampled (.whole number) (.single .float) (.ofParts times (times.map fun _ => (0 : Float32)))

def changingSources : List (Option Sampled) :=
  [some (authoredAt 1 [-1, 1]), none, some (.constant (.whole 2) (.single .float (1 : Float32))),
    some (authoredAt 3 [-2, 1])]

theorem eq_of_mem_changingSources {source : Sampled} (member : some source ∈ changingSources) :
    source = authoredAt 1 [-1, 1] ∨ source = .constant (.whole 2) (.single .float (1 : Float32)) ∨
      source = authoredAt 3 [-2, 1] := by
  simpa [changingSources] using member

theorem mergedTimes_unites_changingSources :
    ((mergedTimes changingSources 0 1 .bare .blank).1 == some [-2, -1, 1]) = true ∧
      ((mergedTimes changingSources.reverse 0 1 .bare .blank).1 ==
        (mergedTimes changingSources 0 1 .bare .blank).1) = true := by
  refine ⟨by decide +kernel, ?_⟩
  have ascends (times : List Float32) (ordered : times.Pairwise (· < ·))
      (bounded : ∀ time ∈ times, time ≤ 1) : Ascends (· < ·) times :=
    ⟨areNumbers_of_le bounded, ordered⟩
  apply (mergedTimes_unites changingSources 0 1 .bare .blank).2 (fun _ => True)
    (fun source => (source.times 0 1).yieldsAlone) trivial
  · intro source member
    rcases eq_of_mem_changingSources member with rfl | rfl | rfl <;> exact .pure _
  · intro source member times isReport
    rcases eq_of_mem_changingSources member with rfl | rfl | rfl <;> cases isReport
    · exact ascends _ (by decide +kernel) (by decide +kernel)
    · exact ascends _ (by decide +kernel) (by decide +kernel)
  · exact List.reverse_perm _
  · trivial

end Merging

end LayeredScene
