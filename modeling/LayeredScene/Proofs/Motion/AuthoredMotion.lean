import LayeredScene.Proofs.Motion.Resolution

/-! # What motion is made from

Motion starts from a value, velocities, accelerations and a number of times, each of which is read
from a place of a prim's data. From stores that agree on the data, all of them are what is authored
at these places.
-/

namespace LayeredScene

def Container.valueAt (container : Container) (place : Locator) (time : Float32) :
    Reads (Option Value) := do
  match ← container.findSampled place with
  | some source => return some (← source.value time)
  | none => return none

theorem Container.AgreesAt.valueAt {around other : Surroundings} {together : Store → Store → Prop}
    {container twin : Container} {place : Locator}
    (agrees : container.AgreesAt around other together twin place) (time : Float32) :
    Alike around other together (container.valueAt place time) (twin.valueAt place time) :=
  agrees.bind (.pure _) fun _ _ sources => (sources.value time).bind fun _ => .pure _

variable {around : Surroundings} {sort : Store → Prop}

theorem Container.valueAt_of_found {container : Container} {place : Locator} {source : Sampled}
    {store after last : Store} {time : Float32} {value : Value}
    (found : container.findSampled place around store = (some source, after))
    (reads : source.value time around after = (value, last)) :
    container.valueAt place time around store = (some value, last) := by
  rw [Container.valueAt, Reads.bind_of_reads found]
  exact Reads.bind_of_reads reads

theorem Container.AgreesAt.settles_valueAt {container : Container} {place : Locator}
    (agrees : container.AgreesAt around around (Among sort) container place) {source : Sampled}
    {store after : Store} (inSort : sort store)
    (found : container.findSampled place around store = (some source, after)) :
    sort after ∧ source.Agrees around around (Among sort) source ∧
      ∀ time value, Settles around sort (source.value time) value →
        Settles around sort (container.valueAt place time) (some value) := by
  have itself := agrees store store ⟨inSort, inSort⟩
  rw [found] at itself
  rcases itself with ⟨⟨sources⟩, afterInSort, _⟩
  refine ⟨afterInSort, sources, fun time value settles => ?_⟩
  have reads : source.value time around after = (value, _) :=
    Prod.ext (settles after afterInSort).1 rfl
  exact (Settles.of_alike (agrees.valueAt time) inSort (valueAt_of_found found reads)).1

namespace MovingPrimvar

variable {primvar : MovingPrimvar} {motion : MotionSample} {time : Float32}
variable {accelerations : List (Vector Float32 3)}

/-- A mode is said by its name for the current frame. Where none of the other names is, velocities
and accelerations both move. -/
structure InMode (primvar : MovingPrimvar) (around : Surroundings) (sort : Store → Prop)
    (mode : MotionMode) : Prop where
  disable : mode = .disable ↔ Settles around sort
    (primvar.prim.valueAt ⟨["velocityMotionMode"]⟩ 0) (some (.single .token "disable"))
  noAcceleration : mode = .noAcceleration ↔ Settles around sort
    (primvar.prim.valueAt ⟨["velocityMotionMode"]⟩ 0) (some (.single .token "noAcceleration"))
  ignore : mode = .ignore ↔ Settles around sort
    (primvar.prim.valueAt ⟨["velocityMotionMode"]⟩ 0) (some (.single .token "ignore"))

theorem mode_eq_map (primvar : MovingPrimvar) : primvar.mode =
    (fun said => ((said.bind Value.token?).bind MotionMode.named?).getD .enable) <$>
      primvar.prim.valueAt .motionMode 0 := by
  rw [mode_eq]
  funext around store
  simp only [Container.valueAt, modeSaid, bind, Functor.map]
  cases (primvar.prim.findSampled .motionMode around store).1 <;> rfl

theorem modeNamed_eq_iff {said : Option Value} {mode : MotionMode} (notUsual : mode ≠ .enable) :
    ((said.bind Value.token?).bind MotionMode.named?).getD .enable = mode ↔
      said = some (.single .token mode.name) := by
  constructor
  · intro isMode
    cases found : (said.bind Value.token?).bind MotionMode.named? with
    | none =>
        rw [found] at isMode
        exact absurd isMode.symm notUsual
    | some other =>
        rw [found, Option.getD_some] at isMode
        rcases Option.bind_eq_some_iff.mp found with ⟨name, isSaid, isNamed⟩
        rcases Option.bind_eq_some_iff.mp isSaid with ⟨value, rfl, isToken⟩
        rw [(ValueType.single .token).extract?_eq_some_iff.mp isToken,
          MotionMode.named?_eq_some_iff.mp isNamed, isMode]
        rfl
  · rintro rfl
    have isNamed : (some (Value.single .token mode.name)).bind Value.token? = some mode.name := rfl
    rw [isNamed, Option.bind_some, MotionMode.named?_eq_some_iff.mpr rfl, Option.getD_some]

theorem inMode_of_reads (agrees : primvar.Agrees around around (Among sort) primvar)
    {store after : Store} {mode : MotionMode} (inSort : sort store)
    (modeIs : primvar.mode around store = (mode, after)) : primvar.InMode around sort mode := by
  rcases Settles.exists_of_alike (agrees.mode.valueAt 0) inSort with ⟨said, settles⟩
  have isMode : ((said.bind Value.token?).bind MotionMode.named?).getD .enable = mode := by
    rw [mode_eq_map] at modeIs
    exact ((settles.map rfl) store inSort).1.symm.trans (congrArg Prod.fst modeIs)
  have isSaid : ∀ other, Settles around sort (primvar.prim.valueAt .motionMode 0) other ↔
      said = other := by
    intro other
    constructor
    · intro otherSettles
      exact (settles store inSort).1.symm.trans (otherSettles store inSort).1
    · rintro rfl
      exact settles
  have named : ∀ other : MotionMode, other ≠ .enable → (mode = other ↔ Settles around sort
      (primvar.prim.valueAt .motionMode 0) (some (.single .token other.name))) := by
    intro other notUsual
    rw [isSaid, ← modeNamed_eq_iff notUsual, isMode]
  exact ⟨named .disable (by decide), named .noAcceleration (by decide), named .ignore (by decide)⟩

/-- A motion is what is authored: it starts from the value of the source at the first time that
bears on the current frame, with the velocities of that time. -/
structure Starts (primvar : MovingPrimvar) (around : Surroundings) (sort : Store → Prop)
    (motion : MotionSample) : Prop where
  time : ∃ times, Settles around sort (primvar.source.times 0 0) times ∧
    motion.time = (times.bind List.head?).getD 0
  value : Settles around sort (primvar.source.value motion.time) motion.value
  velocities : Settles around sort (primvar.prim.valueAt (.primvarValue
      (if primvar.name = "instanceRotations" then "angularVelocities" else "velocities"))
    motion.time) (some (.array .float3 motion.velocities))

theorem motion?_starts (agrees : primvar.Agrees around around (Among sort) primvar) {store : Store}
    (inSort : sort store) : Ends around store primvar.motion? fun found _ =>
      ∀ motion, found = some motion → primvar.Starts around sort motion := by
  have still : ∀ store, Ends around store (pure none) fun (found : Option MotionSample) _ =>
      ∀ motion, found = some motion → primvar.Starts around sort motion := by
    rintro store motion isFound
    cases isFound
  unfold motion?
  apply Ends.bind
  intro found after isFound
  cases found with
  | none => exact still _
  | some sampled =>
      rcases agrees.velocities.settles_valueAt inSort isFound with ⟨inSort, sources, settlesAt⟩
      have timesSettle := (Settles.of_alike (agrees.source.times 0 0) inSort rfl).1
      apply Ends.bind
      intro time after brackets
      have isTime : time = _ := congrArg Prod.fst brackets.symm
      have inSort := (Settles.of_alike (Motion.bracketTime_alike agrees.source 0) inSort brackets).2
      apply Ends.bind
      intro velocitiesTime after brackets
      have inSort := (Settles.of_alike (Motion.bracketTime_alike sources 0) inSort brackets).2
      split
      · exact still _
      apply Ends.bind
      intro sample after reads
      rcases Settles.of_alike (sources.value time) inSort reads with ⟨sampleSettles, inSort⟩
      split
      · exact still _
      rename_i velocities areVelocities
      apply Ends.bind
      intro value after reads
      have valueSettles := (Settles.of_alike (agrees.source.value time) inSort reads).1
      split
      · exact still _
      apply Ends.pure
      intro motion isFound
      cases isFound
      obtain rfl : sample = .array .float3 velocities :=
        (ValueType.array .float3).extract?_eq_some_iff.mp areVelocities
      refine ⟨⟨_, timesSettle, isTime⟩, valueSettles, ?_⟩
      have settles := settlesAt time _ sampleSettles
      rw [turns] at settles
      simpa using settles

theorem starts_of_motion? (agrees : primvar.Agrees around around (Among sort) primvar)
    {store after : Store} (inSort : sort store)
    (moves : primvar.motion? around store = (some motion, after)) :
    primvar.Starts around sort motion := by
  have ends := motion?_starts agrees inSort
  rw [Ends, moves] at ends
  exact ends motion rfl

/-- A prim asks for as many times as are authored for the current frame, or for three. -/
inductive AsksFor (primvar : MovingPrimvar) (around : Surroundings) (sort : Store → Prop)
    (count : Int32) : Prop
  | authored (said : Settles around sort
      (primvar.prim.valueAt (.primvarValue "nonlinearSampleCount") 0) (some (.single .int count)))
  | otherwise (said : Option Value) (settles : Settles around sort
      (primvar.prim.valueAt (.primvarValue "nonlinearSampleCount") 0) said)
      (noCount : ∀ other, said ≠ some (.single .int other)) (isThree : count = 3)

theorem sampleCount_eq (primvar : MovingPrimvar) : primvar.sampleCount =
    (fun said => (said.bind (ValueType.single .int).extract?).getD 3) <$>
      primvar.prim.valueAt (.primvarValue "nonlinearSampleCount") 0 := by
  funext around store
  simp only [sampleCount, Container.valueAt, Motion.sampleCountName, bind, Functor.map]
  cases (primvar.prim.findSampled (.primvarValue "nonlinearSampleCount") around store).1 <;> rfl

theorem asksFor_sampleCount (agrees : primvar.Agrees around around (Among sort) primvar)
    {store : Store} (inSort : sort store) :
    ∃ count, Settles around sort primvar.sampleCount count ∧ primvar.AsksFor around sort count := by
  rcases Settles.exists_of_alike (agrees.sampleCount.valueAt 0) inSort with ⟨said, settles⟩
  rw [sampleCount_eq]
  refine ⟨_, settles.map rfl, ?_⟩
  cases isCount : said.bind (ValueType.single .int).extract? with
  | some count =>
      rcases Option.bind_eq_some_iff.mp isCount with ⟨value, rfl, isInt⟩
      rw [(ValueType.single .int).extract?_eq_some_iff.mp isInt] at settles
      exact .authored settles
  | none =>
      refine .otherwise said settles ?_ rfl
      rintro other rfl
      cases isCount

theorem accelerations_authored (agrees : primvar.Agrees around around (Among sort) primvar)
    (isStraight : primvar.turns = false) {store after : Store} (inSort : sort store)
    (isRead : primvar.accelerations time around store = (accelerations, after))
    (notEmpty : accelerations ≠ []) : ∃ ownTime, (ownTime == time) = true ∧
      Settles around sort (primvar.prim.valueAt (.primvarValue "accelerations") ownTime)
        (some (.array .float3 accelerations)) := by
  suffices ends : Ends around store (primvar.accelerations time) fun accelerations _ =>
      accelerations ≠ [] → ∃ ownTime, (ownTime == time) = true ∧
        Settles around sort (primvar.prim.valueAt (.primvarValue "accelerations") ownTime)
          (some (.array .float3 accelerations)) by
    rw [Ends, isRead] at ends
    exact ends notEmpty
  unfold MovingPrimvar.accelerations
  apply Ends.bind
  intro found after isFound
  cases found with
  | none => exact .pure fun notEmpty => absurd rfl notEmpty
  | some sampled =>
      rcases (agrees.accelerations isStraight).settles_valueAt inSort isFound with
        ⟨inSort, sources, settlesAt⟩
      apply Ends.bind
      intro ownTime after brackets
      have inSort := (Settles.of_alike (Motion.bracketTime_alike sources time) inSort brackets).2
      split
      · exact .pure fun notEmpty => absurd rfl notEmpty
      rename_i together
      apply Ends.bind
      intro value after reads
      have settles := (Settles.of_alike (sources.value ownTime) inSort reads).1
      apply Ends.pure
      intro notEmpty
      refine ⟨ownTime, by simpa [bne] using together, ?_⟩
      cases areVectors : value.vectors? with
      | none =>
          rw [areVectors] at notEmpty
          exact absurd rfl notEmpty
      | some vectors =>
          rw [(ValueType.array .float3).extract?_eq_some_iff.mp areVectors] at settles
          exact settlesAt ownTime _ settles

end MovingPrimvar

end LayeredScene
