import LayeredScene.Proofs.Motion.AuthoredMotion

/-! # Reported and evaluated motion

Whoever samples a moved value relies on the times that it reports: two of them say that it moves
straight from one to the other, more of them that it follows a curve. What is reported and what is
evaluated is decided in two places, and here both are shown to decide alike: where only the ends are
reported no acceleration has a part in the value, and where one has, the reported times are evenly
spread and as many as the prim asks for.
-/

namespace LayeredScene

namespace Motion

variable {start finish : Float32} {steps : Nat}

/-! ## Evenly spread times -/

/-- A number of times from `start` to `finish`, with those between them evenly spread. -/
structure EvenlySpread (start finish : Float32) (count : Nat) (times : List Float32) : Prop where
  length : times.length = count
  first : times.head? = some start
  last : times.getLast? = some finish
  between : ∀ position, 0 < position → position < count - 1 →
    times[position]? =
      some (start + Float32.ofNat position / Float32.ofNat (count - 1) * (finish - start))

theorem evenlySpread_curvedTimes (start finish : Float32) (several : 0 < steps) :
    EvenlySpread start finish (steps + 1) (curvedTimes start finish steps) where
  length := by
    simp only [curvedTimes, List.length_append, List.length_cons, List.length_map,
      List.length_range, List.length_nil]
    omega
  first := rfl
  last := by rw [curvedTimes, List.getLast?_concat]
  between := by
    rintro (_ | position) isLater isShort
    · contradiction
    · have inside : position < steps - 1 := by omega
      simp [curvedTimes, inside, List.getElem?_append_left]

/-! ## Moving one by one -/

variable {seconds : Float32} {positions velocities accelerations : List (Vector Float32 3)}

/-- Positions have moved at constant velocities: one by one, and along each axis by itself. -/
structure Advanced (seconds : Float32) (positions velocities moved : List (Vector Float32 3)) :
    Prop where
  length : moved.length = positions.length
  each : ∀ (index : Nat) (position : Vector Float32 3), positions[index]? = some position →
    ∃ velocity place : Vector Float32 3,
      velocities[index]? = some velocity ∧ moved[index]? = some place ∧
        ∀ (axis : Nat) (inside : axis < 3),
          place[axis] = position[axis] + seconds * velocity[axis]

structure Accelerated (seconds : Float32)
    (positions velocities accelerations moved : List (Vector Float32 3)) : Prop where
  length : moved.length = positions.length
  each : ∀ (index : Nat) (position : Vector Float32 3), positions[index]? = some position →
    ∃ velocity acceleration place : Vector Float32 3,
      velocities[index]? = some velocity ∧ accelerations[index]? = some acceleration ∧
        moved[index]? = some place ∧ ∀ (axis : Nat) (inside : axis < 3), place[axis] =
          position[axis] + seconds * velocity[axis] +
            0.5 * seconds * seconds * acceleration[axis]

theorem exists_getElem?_of_length_le {position : Vector Float32 3} {index : Nat}
    (enough : positions.length ≤ velocities.length) (isThere : positions[index]? = some position) :
    ∃ velocity, velocities[index]? = some velocity := by
  have inside := (List.getElem?_eq_some_iff.mp isThere).1
  exact ⟨_, List.getElem?_eq_getElem (Nat.lt_of_lt_of_le inside enough)⟩

theorem advanced_advance (enough : positions.length ≤ velocities.length) :
    Advanced seconds positions velocities (advance seconds positions velocities) where
  length := length_advance enough
  each index position isThere := by
    rcases exists_getElem?_of_length_le enough isThere with ⟨velocity, hasVelocity⟩
    refine ⟨velocity, sum position (stretched seconds velocity), hasVelocity, ?_, ?_⟩
    · rw [advance, List.getElem?_zipWith, isThere, hasVelocity]
    · intro axis inside
      simp [sum, stretched]

theorem accelerated_accelerate (enough : positions.length ≤ velocities.length)
    (alsoEnough : positions.length ≤ accelerations.length) :
    Accelerated seconds positions velocities accelerations
      (accelerate seconds positions velocities accelerations) where
  length := length_accelerate enough alsoEnough
  each index position isThere := by
    rcases (advanced_advance enough).each index position isThere with
      ⟨velocity, place, hasVelocity, isAdvanced, along⟩
    rcases exists_getElem?_of_length_le alsoEnough isThere with ⟨acceleration, hasAcceleration⟩
    refine ⟨velocity, acceleration,
      sum place (stretched (0.5 * seconds * seconds) acceleration), hasVelocity, hasAcceleration,
      ?_, ?_⟩
    · rw [accelerate, List.getElem?_zipWith, isAdvanced, hasAcceleration]
    · intro axis inside
      simp [sum, stretched, along axis inside]

end Motion

variable {around : Surroundings} {sort : Store → Prop} {mode : MotionMode} {motion : MotionSample}
variable {positions : List (Vector Float32 3)} {rate : Float} {count : Int32}

/-! ## What is reported and what becomes of positions -/

namespace Sampled

variable {resolved : Sampled}

/-- As many evenly spread times are reported for any span as are asked for, and three at least. -/
def ReportsSpread (resolved : Sampled) (around : Surroundings) (sort : Store → Prop)
    (count : Int32) : Prop :=
  ∀ start finish, ∃ times,
    Settles around sort (resolved.times start finish) (some times) ∧
      Motion.EvenlySpread start finish (max count.toInt 3).toNat times

def MovesStraight (resolved : Sampled) (around : Surroundings) (sort : Store → Prop)
    (motion : MotionSample) (positions : List (Vector Float32 3)) (rate : Float) : Prop :=
  ∀ time, ∃ moved, Settles around sort (resolved.value time) (.array .float3 moved) ∧
    Motion.Advanced ((time - motion.time) / rate.toFloat32) positions motion.velocities moved

def MovesCurved (resolved : Sampled) (around : Surroundings) (sort : Store → Prop)
    (motion : MotionSample) (positions accelerations : List (Vector Float32 3)) (rate : Float) :
    Prop :=
  ∀ time, ∃ moved, Settles around sort (resolved.value time) (.array .float3 moved) ∧
    Motion.Accelerated ((time - motion.time) / rate.toFloat32) positions motion.velocities
      accelerations moved

end Sampled

/-- What is reported of positions and what becomes of them. -/
inductive MovingPrimvar.MovesAsReported (primvar : MovingPrimvar) (resolved : Sampled)
    (around : Surroundings) (sort : Store → Prop) (mode : MotionMode) (motion : MotionSample)
    (positions : List (Vector Float32 3)) (rate : Float) (count : Int32) : Prop
  | straight
      (reports : ∀ start finish,
        Settles around sort (resolved.times start finish) (some [start, finish]))
      (moves : resolved.MovesStraight around sort motion positions rate)
  | curved (isEnabled : mode = .enable) (accelerations : List (Vector Float32 3))
      (authored : accelerations ≠ [] → ∃ ownTime, (ownTime == motion.time) = true ∧
        Settles around sort (primvar.prim.valueAt (.primvarValue "accelerations") ownTime)
          (some (.array .float3 accelerations)))
      (reports : resolved.ReportsSpread around sort count)
      (moves : resolved.MovesCurved around sort motion positions accelerations rate)

theorem MovingPrimvar.MovesAsReported.straight_of_ends {primvar : MovingPrimvar}
    {resolved : Sampled}
    (moves : primvar.MovesAsReported resolved around sort mode motion positions rate count)
    {store : Store} (inSort : sort store) {start finish : Float32}
    (areEnds : (resolved.times start finish around store).1 = some [start, finish]) :
    resolved.MovesStraight around sort motion positions rate := by
  cases moves with
  | straight reports moves => exact moves
  | curved isEnabled accelerations authored reports moves =>
      rcases reports start finish with ⟨times, reported, spread⟩
      have counted := spread.length
      rw [Option.some_inj.mp ((reported store inSort).1.symm.trans areEnds)] at counted
      simp only [List.length_cons, List.length_nil] at counted
      omega

namespace MovingPrimvar

variable {primvar : MovingPrimvar} {accelerations : List (Vector Float32 3)}

/-- A primvar moves by some motion, whichever store of a sort that is read from. -/
structure Moves (primvar : MovingPrimvar) (around : Surroundings) (sort : Store → Prop)
    (mode : MotionMode) (motion : MotionSample) : Prop where
  modeIs : Settles around sort primvar.mode mode
  moving : mode = .enable ∨ mode = .noAcceleration
  motionIs : Settles around sort primvar.motion? (some motion)
  unfrozen : primvar.freezes = false

namespace Moves

theorem heeds (moves : primvar.Moves around sort mode motion) : mode ≠ .ignore := by
  rintro rfl
  rcases moves.moving with isEnable | isStraight
  · contradiction
  · contradiction

theorem unhalted (moves : primvar.Moves around sort mode motion) :
    ¬(mode = .disable || primvar.freezes) = true := by
  rw [moves.unfrozen]
  intro isHalted
  rcases moves.moving with rfl | rfl
  · contradiction
  · contradiction

theorem times_settle (moves : primvar.Moves around sort mode motion) {curved : Bool}
    (isCurved : Settles around sort (primvar.curves mode motion) curved)
    (counted : Settles around sort primvar.sampleCount count) (start finish : Float32) :
    Settles around sort (primvar.times start finish)
      (some (if curved then Motion.curvedTimes start finish ((max count.toInt 3).toNat - 1)
        else [start, finish])) := by
  refine moves.modeIs.bind ?_
  rw [if_neg moves.heeds]
  refine moves.motionIs.bind ?_
  dsimp only
  rw [if_neg moves.unhalted]
  refine isCurved.bind ?_
  cases curved with
  | true => exact counted.bind (.pure _)
  | false => exact .pure _

theorem reportsSpread (moves : primvar.Moves around sort mode motion)
    (isCurved : Settles around sort (primvar.curves mode motion) true)
    (counted : Settles around sort primvar.sampleCount count) (type : Option ValueType) :
    (primvar.sampled type).ReportsSpread around sort count := by
  intro start finish
  refine ⟨_, moves.times_settle isCurved counted start finish, ?_⟩
  have several : 3 ≤ (max count.toInt 3).toNat := by omega
  have spread := Motion.evenlySpread_curvedTimes start finish
    (show 0 < (max count.toInt 3).toNat - 1 by omega)
  rw [Nat.sub_add_cancel (by omega)] at spread
  exact spread

theorem value_settles (moves : primvar.Moves around sort mode motion)
    (arePositions : motion.value = .array .float3 positions)
    (rated : Settles around sort (fun around => around.frameRate primvar.input) rate)
    (heeded : Settles around sort
      (if mode = .noAcceleration then pure [] else primvar.accelerations motion.time) accelerations)
    (time : Float32) :
    Settles around sort (primvar.value time)
      (.array .float3 (if positions.length ≤ accelerations.length then
          Motion.accelerate ((time - motion.time) / rate.toFloat32) positions motion.velocities
            accelerations
        else
          Motion.advance ((time - motion.time) / rate.toFloat32) positions motion.velocities)) := by
  refine moves.modeIs.bind ?_
  rw [if_neg moves.heeds]
  refine moves.motionIs.bind ?_
  dsimp only
  rw [if_neg moves.unhalted]
  refine rated.bind ?_
  rw [arePositions]
  dsimp only
  by_cases heedless : mode = .noAcceleration
  · rw [if_pos heedless] at heeded ⊢
    refine heeded.bind ?_
    split <;> exact .pure _
  · rw [if_neg heedless] at heeded ⊢
    refine heeded.bind ?_
    split <;> exact .pure _

theorem movesStraight (moves : primvar.Moves around sort mode motion)
    (arePositions : motion.value = .array .float3 positions)
    (rated : Settles around sort (fun around => around.frameRate primvar.input) rate)
    (heeded : Settles around sort
      (if mode = .noAcceleration then pure [] else primvar.accelerations motion.time) accelerations)
    (enough : positions.length ≤ motion.velocities.length)
    (few : positions = [] ∨ ¬positions.length ≤ accelerations.length) (type : Option ValueType) :
    (primvar.sampled type).MovesStraight around sort motion positions rate := by
  intro time
  refine ⟨_, moves.value_settles arePositions rated heeded time, ?_⟩
  rcases few with rfl | few
  -- without positions there is nothing that could be accelerated
  · exact Motion.advanced_advance enough
  · rw [if_neg few]
    exact Motion.advanced_advance enough

theorem movesCurved (moves : primvar.Moves around sort .enable motion)
    (arePositions : motion.value = .array .float3 positions)
    (rated : Settles around sort (fun around => around.frameRate primvar.input) rate)
    (accelerated : Settles around sort (primvar.accelerations motion.time) accelerations)
    (enough : positions.length ≤ motion.velocities.length)
    (alsoEnough : positions.length ≤ accelerations.length) (type : Option ValueType) :
    (primvar.sampled type).MovesCurved around sort motion positions accelerations rate := by
  intro time
  refine ⟨_, moves.value_settles arePositions rated accelerated time, ?_⟩
  rw [if_pos alsoEnough]
  exact Motion.accelerated_accelerate enough alsoEnough

theorem movesAsReported (moves : primvar.Moves around sort mode motion)
    (agrees : primvar.Agrees around around (Among sort) primvar) {store : Store}
    (inSort : sort store) (isStraight : primvar.turns = false)
    (arePositions : motion.value = .array .float3 positions)
    (enough : positions.length ≤ motion.velocities.length)
    (rated : Settles around sort (fun around => around.frameRate primvar.input) rate)
    (counted : Settles around sort primvar.sampleCount count) (type : Option ValueType) :
    primvar.MovesAsReported (primvar.sampled type) around sort mode motion positions rate
      count := by
  have size : motion.value.arraySize = positions.length := by
    rw [arePositions]
    rfl
  rcases moves.moving with rfl | rfl
  · obtain ⟨accelerations, after, isRead⟩ : ∃ accelerations after,
        primvar.accelerations motion.time around store = (accelerations, after) := ⟨_, _, rfl⟩
    have accelerated := (Settles.of_alike
      (accelerations_alike agrees isStraight motion.time) inSort isRead).1
    have isCurved : Settles around sort (primvar.curves .enable motion)
        (decide (positions.length ≤ accelerations.length)) := by
      rw [curves, isStraight, if_neg Bool.false_ne_true, if_pos rfl, size]
      exact accelerated.map rfl
    by_cases alsoEnough : positions.length ≤ accelerations.length
    · rw [decide_eq_true alsoEnough] at isCurved
      exact .curved rfl accelerations (accelerations_authored agrees isStraight inSort isRead)
        (moves.reportsSpread isCurved counted type)
        (moves.movesCurved arePositions rated accelerated enough alsoEnough type)
    · rw [decide_eq_false alsoEnough] at isCurved
      exact .straight (moves.times_settle isCurved counted)
        (moves.movesStraight arePositions rated accelerated enough (.inr alsoEnough) type)
  · have isUncurved : Settles around sort (primvar.curves .noAcceleration motion) false := by
      rw [curves, isStraight, if_neg Bool.false_ne_true, if_neg (by decide)]
      exact .pure _
    have heeded : Settles around sort
        (if MotionMode.noAcceleration = .noAcceleration then pure []
          else primvar.accelerations motion.time) [] := .pure _
    refine .straight (moves.times_settle isUncurved counted)
      (moves.movesStraight arePositions rated heeded enough ?_ type)
    cases positions with
    | nil => exact .inl rfl
    | cons position positions => exact .inr (by simp)

end Moves

theorem positions_of_accepts {value : Value} (isStraight : primvar.turns = false)
    (accepted : primvar.accepts value = true) : ∃ positions, value = .array .float3 positions := by
  rcases cases_of_accepts accepted with ⟨rotations, rfl⟩ | ⟨rotations, rfl⟩ | arePositions
  · rw [accepts, isStraight] at accepted
    contradiction
  · rw [accepts, isStraight] at accepted
    contradiction
  · exact arePositions

end MovingPrimvar

/-- Positions and rotations that move report the times that their motion takes. Rotations report
evenly spread times, as many as the prim asks for and three at least. Positions either move on
straight from where they are authored, each by its velocity for the seconds that have passed, and
just the ends of any span are reported; or their mode is to heed accelerations, these have a part in
where each comes to, and evenly spread times are reported as for rotations. So whatever reports just
the ends of a span is not accelerated. -/
theorem Motion.movedData_reportsMotion {around : Surroundings} {primvar : MovingPrimvar}
    {store after : Store} {sort : Store → Prop} {mode : MotionMode} {motion : MotionSample}
    {asked moded settled : Store}
    (named : primvar.name ∈ ["points", "instanceTranslations", "instanceRotations"])
    (authored : primvar.prim.findSampled (.primvarValue primvar.name) around store =
      (some primvar.source, after))
    (agrees : primvar.Agrees around around (Among sort) primvar) (inSort : sort asked)
    (modeIs : primvar.mode around asked = (mode, moded))
    (moving : mode = .enable ∨ mode = .noAcceleration)
    (moves : primvar.motion? around moded = (some motion, settled)) :
    ∃ resolved last count,
      (movedData primvar.input primvar.prim).findSampled (.primvarValue primvar.name) around store =
        (some resolved, last) ∧
      primvar.InMode around sort mode ∧ primvar.Starts around sort motion ∧
      primvar.AsksFor around sort count ∧
      (primvar.name = "instanceRotations" → resolved.ReportsSpread around sort count) ∧
      (primvar.name ≠ "instanceRotations" → ∃ positions rate,
        motion.value = .array .float3 positions ∧
        Settles around sort (fun around => around.frameRate primvar.input) rate ∧
        primvar.MovesAsReported resolved around sort mode motion positions rate count ∧
        ∀ other start finish, sort other →
          (resolved.times start finish around other).1 = some [start, finish] →
          resolved.MovesStraight around sort motion positions rate) := by
  have affected : movedPrimvars.contains primvar.name = true :=
    List.contains_iff_mem.mpr (List.mem_append_left ["instanceScales"] named)
  have unfrozen : primvar.freezes = false := by
    refine decide_eq_false fun isScales => ?_
    rw [isScales] at named
    exact absurd named (by decide)
  rcases movedData_findSampled_value affected authored with ⟨type, last, found⟩
  rcases Settles.of_alike (MovingPrimvar.mode_alike agrees) inSort modeIs with
    ⟨modeSettles, modedInSort⟩
  have motionSettles :=
    (Settles.of_alike (MovingPrimvar.motion?_alike agrees) modedInSort moves).1
  have starts := MovingPrimvar.startsAt_of_motion? moves
  rcases MovingPrimvar.asksFor_sampleCount agrees inSort with ⟨count, counted, asksFor⟩
  have motions : primvar.Moves around sort mode motion :=
    ⟨modeSettles, moving, motionSettles, unfrozen⟩
  refine ⟨_, last, count, found, MovingPrimvar.inMode_of_reads agrees inSort modeIs,
    MovingPrimvar.starts_of_motion? agrees modedInSort moves, asksFor, ?_, ?_⟩
  · intro isRotations
    have turns : primvar.turns = true := decide_eq_true isRotations
    refine motions.reportsSpread ?_ counted type
    rw [MovingPrimvar.curves, turns, if_pos rfl]
    exact .pure _
  · intro notRotations
    have isStraight : primvar.turns = false := decide_eq_false notRotations
    obtain ⟨positions, arePositions⟩ :=
      MovingPrimvar.positions_of_accepts isStraight starts.accepted
    have enough : positions.length ≤ motion.velocities.length := by
      have enough := starts.enough
      rw [arePositions] at enough
      exact enough
    have rated := (Settles.of_alike agrees.frameRate inSort rfl).1
    have reported := motions.movesAsReported agrees inSort isStraight arePositions enough rated
      counted type
    refine ⟨positions, _, arePositions, rated, reported, ?_⟩
    intro other start finish otherInSort areEnds
    exact reported.straight_of_ends otherInSort areEnds

def steadyPrimvar (object : Nat) (type : ValueType) (content : type.Content) : Source :=
  (Container.retained (.whole object)
    [("primvarValue", some (.sampled (.constantOf (.whole (object + 1)) type content)))]).toSource

theorem steadyPrimvar_agreesAt {around other : Surroundings} {together : Store → Store → Prop}
    {object : Nat} {type : ValueType} {content : type.Content} (names : List Token) :
    (steadyPrimvar object type content).AgreesAt around other together
      (steadyPrimvar object type content) names := by
  refine Source.agreesAt_retained ?_ names
  rintro source isMember names
  cases List.mem_singleton.mp isMember
  exact Source.agreesAt_constantOf _ _ _ names

def accelerating : Container :=
  .retained (.whole 1) [("primvars", some (Container.retained (.whole 2)
    [("points", some (steadyPrimvar 3 (.array .float3) [#v[7, 0, 0]])),
      ("velocities", some (steadyPrimvar 5 (.array .float3) [#v[24, 0, 0]])),
      ("accelerations", some (steadyPrimvar 7 (.array .float3) [#v[48, 0, 0]])),
      ("nonlinearSampleCount", some (steadyPrimvar 9 (.single .int) 5))]).toSource)]

theorem accelerating_agreesAt {around other : Surroundings} {together : Store → Store → Prop}
    (place : Locator) : accelerating.AgreesAt around other together accelerating place := by
  refine Source.agreesAt_retained ?_ place.tokens
  rintro source isMember names
  cases List.mem_singleton.mp isMember
  refine Source.agreesAt_retained ?_ names
  rintro primvar isPrimvar names
  simp only [List.map_cons, List.map_nil, List.mem_cons, Option.some_inj, List.not_mem_nil,
    or_false] at isPrimvar
  rcases isPrimvar with rfl | rfl | rfl | rfl <;> exact steadyPrimvar_agreesAt names

def acceleratingPoint : MovingPrimvar where
  name := "points"
  source := .constantOf (.whole 4) (.array .float3) [#v[7, 0, 0]]
  prim := accelerating
  input := 0

theorem acceleratingPoint_agrees :
    acceleratingPoint.Agrees .bare .bare (Among fun _ => True) acceleratingPoint := by
  have constant : acceleratingPoint.source.Agrees .bare .bare (Among fun _ => True)
      acceleratingPoint.source :=
    ⟨fun time => (Alike.pure [#v[7, 0, 0]]).map _, fun start finish => .pure none⟩
  exact ⟨rfl, constant, accelerating_agreesAt _, accelerating_agreesAt _, accelerating_agreesAt _,
    fun _ => accelerating_agreesAt _, fun _ _ stores => ⟨rfl, stores⟩⟩

theorem eq_five_of_asksFor {count : Int32}
    (asked : acceleratingPoint.AsksFor .bare (fun _ => True) count) : count = 5 := by
  have authored : (accelerating.valueAt (.primvarValue "nonlinearSampleCount") 0 .bare .blank).1 =
      some (.single .int 5) := rfl
  cases asked with
  | authored said =>
      cases authored.symm.trans (said .blank trivial).1
      rfl
  | otherwise said settles noCount =>
      exact absurd ((settles .blank trivial).1.symm.trans authored) (noCount 5)

theorem eq_accelerations_of_authored {accelerations : List (Vector Float32 3)} {time : Float32}
    (said : Settles .bare (fun _ => True)
      (accelerating.valueAt (.primvarValue "accelerations") time)
      (some (.array .float3 accelerations))) : accelerations = [#v[48, 0, 0]] := by
  have authored : (accelerating.valueAt (.primvarValue "accelerations") time .bare .blank).1 =
      some (.array .float3 [#v[48, 0, 0]]) := rfl
  cases authored.symm.trans (said .blank trivial).1
  rfl

/-- A point that is accelerated reports five times. Half a second on from `7` it has come by half of
its velocity and by an eighth of its acceleration. -/
theorem Motion.movedData_reportsMotion_acceleratingPoint :
    acceleratingPoint.mode .bare .blank = (.enable, .blank) ∧
      acceleratingPoint.motion? .bare .blank =
        (some ⟨.array .float3 [#v[7, 0, 0]], [#v[24, 0, 0]], 0⟩, .blank) ∧
    ∃ resolved last times place seconds,
      (movedData 0 accelerating).findSampled (.primvarValue "points") .bare .blank =
        (some resolved, last) ∧
      (resolved.times (-1) 1 .bare .blank).1 = some times ∧ EvenlySpread (-1) 1 5 times ∧
      (resolved.value 12 .bare .blank).1 = .array .float3 [place] ∧
      seconds = 12 / (24 : Float).toFloat32 ∧
      place.get 0 = 7 + seconds * 24 + 0.5 * seconds * seconds * 48 := by
  have isEnabled : acceleratingPoint.mode .bare .blank = (.enable, .blank) := rfl
  have isMotion : acceleratingPoint.motion? .bare .blank =
      (some ⟨.array .float3 [#v[7, 0, 0]], [#v[24, 0, 0]], 0⟩, .blank) := rfl
  have authored : acceleratingPoint.prim.findSampled (.primvarValue acceleratingPoint.name) .bare
      .blank = (some acceleratingPoint.source, .blank) := rfl
  rcases movedData_reportsMotion (by decide) authored acceleratingPoint_agrees trivial isEnabled
    (.inl rfl) isMotion with ⟨resolved, last, count, found, -, -, asked, -, moves⟩
  obtain rfl := eq_five_of_asksFor asked
  rcases moves (by decide) with ⟨positions, rate, arePositions, rated, reported, -⟩
  cases arePositions
  obtain rfl : (24 : Float) = rate := (rated .blank trivial).1
  refine ⟨isEnabled, isMotion, resolved, last, ?_⟩
  cases reported with
  | straight reports _ =>
      have isFound : (movedData 0 accelerating).findSampled (.primvarValue "points") .bare .blank =
          (some (acceleratingPoint.sampled (some (.array .float3))), .blank) := rfl
      cases isFound.symm.trans found
      have notEnds : (acceleratingPoint.times (-1) 1 .bare .blank).1 ≠ some [-1, 1] := by
        decide +kernel
      exact absurd (reports (-1) 1 .blank trivial).1 notEnds
  | curved isEnabled accelerations authored reports moves =>
      rcases reports (-1) 1 with ⟨times, areReported, spread⟩
      rcases moves 12 with ⟨moved, isMoved, accelerated⟩
      rcases accelerated.each 0 #v[7, 0, 0] rfl with
        ⟨velocity, acceleration, place, isVelocity, isAcceleration, isPlace, along⟩
      have notEmpty : accelerations ≠ [] := by
        rintro rfl
        contradiction
      rcases authored notEmpty with ⟨ownTime, -, said⟩
      obtain rfl := eq_accelerations_of_authored said
      cases isVelocity
      cases isAcceleration
      rcases List.length_eq_one_iff.mp accelerated.length with ⟨only, rfl⟩
      cases isPlace
      refine ⟨times, _, _, found, (areReported .blank trivial).1, spread,
        (isMoved .blank trivial).1, rfl, ?_⟩
      have passed : (12 : Float32) - 0 = 12 := by decide +kernel
      have along := along 0 (by decide)
      rw [passed] at along
      exact along

end LayeredScene
