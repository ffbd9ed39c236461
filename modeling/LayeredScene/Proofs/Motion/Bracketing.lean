import LayeredScene.Proofs.Motion.Resolution
import LayeredScene.Proofs.TimeSamples.Contribution

/-! # Where motion starts

A value moves from one of the samples that are authored for it. To find it, a source is asked which
times bear on the current frame alone, and the first of them is taken. That is the last one before
the frame: a sample at the frame itself bears on the frame too, but it comes second.
-/

namespace LayeredScene

namespace TimeSamples

open TimeOrder

variable {times : List Float32} {start finish time other : Float32} {reached : Float32 → Bool}

/-! ## The last time that is reached -/

/-- The last of some times in order that is reached, or the first of all if none is. -/
def lastReached? (reached : Float32 → Bool) (times : List Float32) : Option Float32 :=
  (times.filter reached).getLast?.or times.head?

theorem lt_asymmetric (first second : Float32) (before : first < second) : ¬second < first :=
  fun after => not_le_of_lt before (le_of_lt after)

theorem head?_eq_some_iff (increasing : times.Pairwise (· < ·))
    (areNumbers : ∀ time ∈ times, IsNumber time) :
    times.head? = some time ↔ time ∈ times ∧ ∀ other ∈ times, time ≤ other := by
  rw [head?_eq_some_iff_none_before lt_asymmetric increasing]
  exact and_congr_right fun member => forall₂_congr fun other otherMember =>
    not_lt_iff (areNumbers other otherMember) (areNumbers time member)

theorem getLast?_filter_eq_some_iff (increasing : times.Pairwise (· < ·))
    (areNumbers : ∀ time ∈ times, IsNumber time) :
    (times.filter reached).getLast? = some time ↔ time ∈ times ∧ reached time = true ∧
      ∀ other ∈ times, reached other = true → other ≤ time := by
  rw [getLast?_eq_some_iff_none_after lt_asymmetric (increasing.filter _), List.mem_filter,
    and_assoc]
  simp only [List.mem_filter, and_imp]
  exact and_congr_right fun member => and_congr_right fun _ => forall₂_congr fun other otherMember =>
    imp_congr_right fun _ => not_lt_iff (areNumbers time member) (areNumbers other otherMember)

theorem head?_gather (increasing : times.Pairwise (· < ·))
    (areNumbers : ∀ time ∈ times, IsNumber time) (ordered : start ≤ finish) :
    (gather start finish [] times).head? = lastReached? (· < start) times := by
  have cut := cut_at_span increasing areNumbers ordered
  rw [gather_eq increasing areNumbers ordered, lastReached?]
  cases last : (timesBefore times start).getLast? with
  | some time =>
      rw [timesBefore] at last
      rw [last]
      rfl
  | none =>
      rw [List.getLast?_eq_none_iff.mp last, List.nil_append] at cut
      rw [timesBefore] at last
      rw [last, Option.none_or, Option.toList_none, List.nil_append, ← congrArg List.head? cut]
      cases timesWithin times start finish with
      | cons time within => rfl
      | nil => cases timesFrom times finish <;> rfl

theorem lastReached?_le_of_beq (increasing : times.Pairwise (· < ·))
    (areNumbers : ∀ time ∈ times, IsNumber time) (member : time ∈ times)
    (same : (time == start) = true) : lastReached? (· ≤ start) times = some time := by
  rcases beq_iff.mp same with ⟨atMost, atLeast⟩
  have isLast : (times.filter (· ≤ start)).getLast? = some time :=
    (getLast?_filter_eq_some_iff increasing areNumbers).mpr
      ⟨member, by simpa using atMost, fun other _ reached =>
        le_trans (by simpa using reached) atLeast⟩
  rw [lastReached?, isLast, Option.some_or]

theorem lastReached?_lt_of_head? (increasing : times.Pairwise (· < ·))
    (areNumbers : ∀ time ∈ times, IsNumber time) (isFirst : times.head? = some time)
    (begun : start ≤ time) : lastReached? (· < start) times = some time := by
  have noneBefore : times.filter (· < start) = [] := by
    refine List.filter_eq_nil_iff.mpr fun other member before => ?_
    have isEarliest := ((head?_eq_some_iff increasing areNumbers).mp isFirst).2 other member
    exact not_le_of_lt (by simpa using before) (le_trans begun isEarliest)
  rw [lastReached?, noneBefore, List.getLast?_nil, Option.none_or, isFirst]

theorem lastReached?_le_eq_some_iff (increasing : times.Pairwise (· < ·))
    (areNumbers : ∀ time ∈ times, IsNumber time) (isNumber : IsNumber start)
    (isLast : lastReached? (· < start) times = some time) :
    lastReached? (· ≤ start) times = some time ↔
      ∀ other ∈ times, (other == start) = true → times.head? = some other := by
  constructor
  · intro isLatest other member same
    obtain rfl : other = time := Option.some_inj.mp
      ((lastReached?_le_of_beq increasing areNumbers member same).symm.trans isLatest)
    rcases Option.or_eq_some_iff.mp isLast with isBefore | ⟨-, isFirst⟩
    · have before := ((getLast?_filter_eq_some_iff increasing areNumbers).mp isBefore).2.1
      exact absurd (beq_iff.mp same).2 (not_le_of_lt (by simpa using before))
    · exact isFirst
  · intro onlyFirst
    by_cases atStart : ∃ other ∈ times, (other == start) = true
    · rcases atStart with ⟨other, member, same⟩
      have isFirst := onlyFirst other member same
      rw [lastReached?_le_of_beq increasing areNumbers member same, ← isLast,
        lastReached?_lt_of_head? increasing areNumbers isFirst (beq_iff.mp same).2]
    · have sameReached : times.filter (· ≤ start) = times.filter (· < start) := by
        refine List.filter_congr fun other member => decide_eq_decide.mpr ⟨fun atMost => ?_, le_of_lt⟩
        by_contra notBefore
        have atLeast := (not_lt_iff (areNumbers other member) isNumber).mp notBefore
        exact atStart ⟨other, member, beq_iff.mpr ⟨atMost, atLeast⟩⟩
      rw [lastReached?, sameReached, ← lastReached?, isLast]

theorem exists_lastReached? (reached : Float32 → Bool) (notEmpty : times ≠ []) :
    ∃ time ∈ times, lastReached? reached times = some time := by
  cases last : (times.filter reached).getLast? with
  | some latest =>
      refine ⟨latest, List.mem_of_mem_filter (List.mem_of_getLast? last), ?_⟩
      rw [lastReached?, last, Option.some_or]
  | none =>
      rcases List.exists_cons_of_ne_nil notEmpty with ⟨first, rest, rfl⟩
      refine ⟨first, List.mem_cons_self, ?_⟩
      rw [lastReached?, last, Option.none_or, List.head?_cons]

theorem isNumber_frame : IsNumber 0 := by
  have atFrame : (0 : Float32) ≤ 0 := by decide +kernel
  exact (le_iff.mp atFrame).1

theorem sample?_of_mem {α : Type} [Inhabited α] [Blend α] {array : TimeSamples α}
    {sample : Float32 × α} (increasing : Increasing array.samples.toList)
    (areNumbers : ∀ sample ∈ array.samples.toList, IsNumber sample.1)
    (member : sample ∈ array.samples.toList) : array.sample? sample.1 = some sample.2 := by
  have itself := le_refl (areNumbers sample member)
  rw [sample?_eq_valueAlong increasing areNumbers (areNumbers sample member)]
  rcases List.append_of_mem member with ⟨earlier, later, cut⟩
  rw [cut] at increasing ⊢
  rw [valueAlong_append_cons increasing itself]
  cases later with
  | nil => rfl
  | cons next later => exact congrArg some (if_pos itself)

end TimeSamples

/-! ## Sources with samples -/

namespace Sampled

def ReportsTimes (around : Surroundings) (times : List Float32) (source : Sampled) : Prop :=
  ∀ start finish store,
    (source.times start finish around store).1 = TimeSamples.contributing times start finish

/-- A source of authored samples: from whatever store it is read, it reports their times, and its
value is found among them. -/
structure Samples {α : Type} [Inhabited α] [Blend α] (around : Surroundings)
    (samples : TimeSamples α) (shown : α → Value) (source : Sampled) : Prop where
  times : source.ReportsTimes around samples.times
  value : ∀ time content, samples.sample? time = some content →
    ∀ store, (source.value time around store).1 = shown content

theorem samples_multisampled (around : Surroundings) (identity : Identity) (type : ValueType)
    (samples : TimeSamples type.Content) :
    (multisampled identity type samples).Samples around samples type.wrap where
  times _ _ _ := rfl
  value time content isSample store := by
    show type.wrap (Reads.bracketed (samples.sample? time) around store).1 = _
    rw [isSample]
    rfl

end Sampled

namespace Motion

open TimeSamples

variable {around : Surroundings} {times : List Float32} {time : Float32}

theorem bracketTime_eq {source : Sampled} (reports : source.ReportsTimes around times)
    (several : 2 ≤ times.length) (increasing : times.Pairwise (· < ·))
    (isLast : lastReached? (· < 0) times = some time) (fallback : Float32) (store : Store) :
    (bracketTime source fallback around store).1 = time := by
  have areNumbers : ∀ time ∈ times, TimeOrder.IsNumber time := fun _ =>
    isNumber_of_mem increasing several
  show (((source.times 0 0 around store).1.bind List.head?).getD fallback) = time
  rw [reports, contributing, if_neg (by omega), Option.bind_some,
    head?_gather increasing areNumbers (TimeOrder.le_refl isNumber_frame), isLast,
    Option.getD_some]

end Motion

namespace MovingPrimvar

variable {around : Surroundings} {primvar : MovingPrimvar} {times : List Float32} {time : Float32}
variable {value : Value}

def velocitiesPlace (primvar : MovingPrimvar) : Locator :=
  .primvarValue (if primvar.turns then "angularVelocities" else "velocities")

structure StartsFrom (primvar : MovingPrimvar) (around : Surroundings) (times : List Float32)
    (time : Float32) (value : Value) : Prop where
  /-- whatever is authored at the same times is read at that time -/
  brackets : ∀ other : Sampled, other.ReportsTimes around times →
    ∀ fallback store, (Motion.bracketTime other fallback around store).1 = time
  /-- velocities that are authored at the same times move it, if there are enough of them for a value
  that velocities act on -/
  moves : ∀ store velocities found directions,
    primvar.prim.findSampled primvar.velocitiesPlace around store = (some velocities, found) →
    velocities.ReportsTimes around times →
    (∀ asked, (velocities.value time around asked).1.vectors? = some directions) →
    value.arraySize ≤ directions.length → primvar.accepts value = true →
    ∃ after, primvar.motion? around store = (some ⟨value, directions, time⟩, after)
  /-- and there is no other motion -/
  starts : ∀ store motion after, primvar.motion? around store = (some motion, after) →
    motion.time = time ∧ motion.value = value
  /-- where it is frozen it keeps that value -/
  freezes : ∀ store mode moded motion after,
    primvar.mode around store = (mode, moded) → mode ≠ .ignore →
    primvar.motion? around moded = (some motion, after) →
    (mode = .disable || primvar.freezes) = true →
    ∀ asked, (primvar.value asked around store).1 = value

theorem motion?_of_brackets {store found : Store} {velocities : Sampled}
    {directions : List (Vector Float32 3)} (isNumber : TimeOrder.IsNumber time)
    (isFound : primvar.prim.findSampled primvar.velocitiesPlace around store =
      (some velocities, found))
    (brackets : ∀ asked, (Motion.bracketTime primvar.source 0 around asked).1 = time)
    (velocitiesBracket : ∀ asked, (Motion.bracketTime velocities 0 around asked).1 = time)
    (directed : ∀ asked, (velocities.value time around asked).1.vectors? = some directions)
    (valued : ∀ asked, (primvar.source.value time around asked).1 = value)
    (enough : value.arraySize ≤ directions.length) (accepted : primvar.accepts value = true) :
    ∃ after, primvar.motion? around store = (some ⟨value, directions, time⟩, after) := by
  have ends : Ends around store primvar.motion? fun found _ =>
      found = some ⟨value, directions, time⟩ := by
    apply Ends.bind
    intro result after isResult
    cases isFound.symm.trans isResult
    apply Ends.bind
    intro ownTime asked isTime
    obtain rfl : ownTime = time := by rw [← brackets found, isTime]
    apply Ends.bind
    intro velocitiesTime answered isVelocitiesTime
    obtain rfl : velocitiesTime = ownTime := by rw [← velocitiesBracket asked, isVelocitiesTime]
    have isItself := TimeOrder.le_refl isNumber
    rw [bne, TimeOrder.beq_iff.mpr ⟨isItself, isItself⟩]
    apply Ends.bind
    intro velocity observed isVelocity
    have isDirected : velocity.vectors? = some directions := by rw [← directed answered, isVelocity]
    rw [isDirected]
    apply Ends.bind
    intro authored read isAuthored
    obtain rfl : authored = value := by rw [← valued observed, isAuthored]
    have notFew : (decide (directions.length < authored.arraySize) || !primvar.accepts authored) =
        false := by simp [accepted, enough]
    rw [notFew]
    exact .pure rfl
  exact ⟨(primvar.motion? around store).2, Prod.ext ends rfl⟩

theorem startsFrom_of_samples {α : Type} [Inhabited α] [Blend α] {samples : TimeSamples α}
    {shown : α → Value} {sample : Float32 × α}
    (isSampled : primvar.source.Samples around samples shown) (several : 2 ≤ samples.times.length)
    (increasing : samples.times.Pairwise (· < ·)) (member : sample ∈ samples.samples.toList)
    (isLast : TimeSamples.lastReached? (· < 0) samples.times = some sample.1) :
    primvar.StartsFrom around samples.times sample.1 (shown sample.2) := by
  have areNumbers : ∀ sample ∈ samples.samples.toList, TimeOrder.IsNumber sample.1 :=
    fun _ isSample =>
      TimeSamples.isNumber_of_mem increasing several (List.mem_map_of_mem isSample)
  have valued : ∀ store, (primvar.source.value sample.1 around store).1 = shown sample.2 :=
    isSampled.value sample.1 sample.2
      (TimeSamples.sample?_of_mem (List.pairwise_map.mp increasing) areNumbers member)
  have brackets : ∀ other : Sampled, other.ReportsTimes around samples.times →
      ∀ fallback store, (Motion.bracketTime other fallback around store).1 = sample.1 :=
    fun other reports => Motion.bracketTime_eq reports several increasing isLast
  have starts : ∀ store motion after, primvar.motion? around store = (some motion, after) →
      motion.time = sample.1 ∧ motion.value = shown sample.2 := by
    intro store motion after moves
    rcases startsAt_of_motion? moves with ⟨⟨asked, answered, isTime⟩, ⟨before, isValue⟩, _, _⟩
    have sameTime : motion.time = sample.1 := by
      rw [← brackets _ isSampled.times 0 asked, isTime]
    rw [sameTime] at isValue
    exact ⟨sameTime, by rw [← valued before, isValue]⟩
  refine ⟨brackets, ?_, starts, ?_⟩
  · intro store velocities found directions isFound reports directed enough accepted
    exact motion?_of_brackets (areNumbers sample member) isFound
      (brackets _ isSampled.times 0) (brackets _ reports 0) directed valued enough accepted
  · intro store mode moded motion after modeIs heeds moves freezes asked
    rw [value_frozen modeIs heeds moves freezes, (starts moded motion after moves).1]
    exact valued after

end MovingPrimvar

/-- Where the authored value of a primvar that moves has samples, motion starts from the last one
before the current frame, or from the first if there is none, and a frozen primvar stays there. The
last sample at or before the frame is the same one if and only if no sample but the first is
authored at the frame. -/
theorem Motion.movedData_startsFrom {α : Type} [Inhabited α] [Blend α] {around : Surroundings}
    {primvar : MovingPrimvar} {store after : Store} {samples : TimeSamples α} {shown : α → Value}
    (affected : movedPrimvars.contains primvar.name = true)
    (authored : primvar.prim.findSampled (.primvarValue primvar.name) around store =
      (some primvar.source, after))
    (isSampled : primvar.source.Samples around samples shown) (several : 2 ≤ samples.size)
    (increasing : samples.times.Pairwise (· < ·)) :
    ∃ type last sample,
      (movedData primvar.input primvar.prim).findSampled (.primvarValue primvar.name) around store =
        (some (primvar.sampled type), last) ∧
      sample ∈ samples.samples.toList ∧
      TimeSamples.lastReached? (· < 0) samples.times = some sample.1 ∧
      (TimeSamples.lastReached? (· ≤ 0) samples.times = some sample.1 ↔
        ∀ time ∈ samples.times, (time == 0) = true → samples.times.head? = some time) ∧
      primvar.StartsFrom around samples.times sample.1 (shown sample.2) := by
  have several : 2 ≤ samples.times.length := by
    simpa [TimeSamples.times, TimeSamples.size] using several
  have areNumbers : ∀ time ∈ samples.times, TimeOrder.IsNumber time := fun _ =>
    TimeSamples.isNumber_of_mem increasing several
  have notEmpty : samples.times ≠ [] := List.ne_nil_of_length_pos (by omega)
  rcases movedData_findSampled_value affected authored with ⟨type, last, found⟩
  rcases TimeSamples.exists_lastReached? (fun time => time < 0) notEmpty with
    ⟨time, isTime, isLast⟩
  rcases List.mem_map.mp isTime with ⟨sample, member, rfl⟩
  exact ⟨type, last, sample, found, member, isLast,
    TimeSamples.lastReached?_le_eq_some_iff increasing areNumbers TimeSamples.isNumber_frame isLast,
    MovingPrimvar.startsFrom_of_samples isSampled several increasing member isLast⟩

def passingPoint : TimeSamples (ValueType.array .float3).Content :=
  .ofParts [-1, 0, 1] [[#v[1, 0, 0]], [#v[2, 0, 0]], [#v[3, 0, 0]]]

def haltedPoint : Container :=
  .retained (.whole 1)
    [("velocityMotionMode", some (.sampled (.constantOf (.whole 2) (.single .token) "disable"))),
      ("primvars", some (Container.retained (.whole 3)
        [("points", some (Container.retained (.whole 4) [("primvarValue",
            some (.sampled (.multisampled (.whole 5) (.array .float3) passingPoint)))]).toSource),
          ("velocities", some (Container.retained (.whole 6) [("primvarValue",
            some (.sampled (.multisampled (.whole 7) (.array .float3)
              passingPoint)))]).toSource)]).toSource)]

def haltedPrimvar : MovingPrimvar where
  name := "points"
  source := .multisampled (.whole 5) (.array .float3) passingPoint
  prim := haltedPoint
  input := 0

theorem Motion.movedData_startsFrom_passingPoint :
    2 ≤ passingPoint.size ∧ passingPoint.times.Pairwise (· < ·) ∧ ∃ type last,
      (movedData 0 haltedPoint).findSampled (.primvarValue "points") .bare .blank =
        (some (haltedPrimvar.sampled type), last) ∧
      haltedPrimvar.StartsFrom .bare [-1, 0, 1] (-1) (.array .float3 [#v[1, 0, 0]]) := by
  let _ : Blend (ValueType.array .float3).Content := ⟨ValueType.blend _⟩
  have isSampled := Sampled.samples_multisampled .bare (.whole 5) (.array .float3) passingPoint
  have authored : haltedPrimvar.prim.findSampled (.primvarValue haltedPrimvar.name) .bare .blank =
      (some haltedPrimvar.source, .blank) := rfl
  have increasing : passingPoint.times.Pairwise (· < ·) := by decide +kernel
  have several : 2 ≤ passingPoint.size := by decide
  rcases movedData_startsFrom (by decide) authored isSampled several increasing with
    ⟨type, last, sample, found, member, isLast, -, startsFrom⟩
  have isFirst : sample.1 = -1 := Option.some_inj.mp (isLast.symm.trans (by decide +kernel))
  have isSample : sample ∈ [((-1 : Float32), [#v[(1 : Float32), 0, 0]]), (0, [#v[2, 0, 0]]),
      (1, [#v[3, 0, 0]])] := member
  simp only [List.mem_cons, List.not_mem_nil, or_false] at isSample
  rcases isSample with rfl | rfl | rfl
  · exact ⟨several, increasing, type, last, found, startsFrom⟩
  · exact absurd isFirst (by decide +kernel)
  · exact absurd isFirst (by decide +kernel)

/-- Its last sample at or before the frame is the one at the frame, and yet it is frozen at the one
before. -/
theorem Motion.not_startsFrom_frame :
    TimeSamples.lastReached? (· ≤ 0) passingPoint.times = some 0 ∧
      (0, [#v[2, 0, 0]]) ∈ passingPoint.samples.toList ∧
      (haltedPrimvar.mode .bare .blank).1 = .disable ∧
      (haltedPrimvar.motion? .bare .blank).1.map (·.time) = some (-1) ∧
      (haltedPrimvar.value 0 .bare .blank).1 = .array .float3 [#v[1, 0, 0]] ∧
      #v[(1 : Float32), 0, 0] ≠ #v[2, 0, 0] := by
  have authored : (0, [#v[2, 0, 0]]) ∈ passingPoint.samples.toList := .tail _ (.head _)
  have frozen : (haltedPrimvar.value 0 .bare .blank).1 = .array .float3 [#v[1, 0, 0]] := rfl
  refine ⟨?_, authored, ?_, ?_, frozen, ?_⟩ <;> decide +kernel

end LayeredScene
