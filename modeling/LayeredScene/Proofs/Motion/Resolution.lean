import LayeredScene.Proofs.Motion.Widening

/-! # What resolved values promise

A sampled source that reports no times promises to be constant. Values that are moved keep that
promise if what they are made from does. And where a value moves, it stays an array of the same sort
with the same number of items: the velocities are checked to be enough of them beforehand.
-/

namespace LayeredScene

variable {around : Surroundings} {together : Store → Store → Prop}

/-- Where a sampled source reports no times, it yields the same at all times that are numbers, from
whatever stands together with the store it reports from. -/
def Sampled.ReportsChange (around : Surroundings) (together : Store → Store → Prop)
    (source : Sampled) : Prop :=
  ∀ ⦃store twin⦄, together store twin →
    ∀ start finish, (source.times start finish around store).1 = none →
      ∀ time other, time.isNaN = false → other.isNaN = false →
        (source.value time around store).1 = (source.value other around twin).1

def Sampled.Repeats (around : Surroundings) (source : Sampled) : Prop :=
  ∀ time store, (source.value time around (source.value time around store).2).1 =
    (source.value time around store).1

structure Value.SameShape (value other : Value) : Prop where
  type : value.type? = other.type?
  items : value.arraySize = other.arraySize

def Ends {α : Type} (around : Surroundings) (store : Store) (reading : Reads α)
    (post : α → Store → Prop) : Prop :=
  post (reading around store).1 (reading around store).2

namespace Ends

variable {α β : Type} {store : Store} {first : Reads α} {next : α → Reads β}
variable {post : β → Store → Prop}

theorem pure {result : β} (holds : post result store) : Ends around store (pure result) post :=
  holds

theorem bind (holds : ∀ value after, first around store = (value, after) →
    Ends around after (next value) post) : Ends around store (first >>= next) post :=
  holds _ _ rfl

theorem bind_of_reads {value : α} {after : Store} (reads : first around store = (value, after))
    (holds : Ends around after (next value) post) : Ends around store (first >>= next) post := by
  rw [Ends, Reads.bind_of_reads reads]
  exact holds

end Ends

namespace Motion

variable {seconds : Float32} {positions velocities accelerations : List (Vector Float32 3)}

theorem length_advance (enough : positions.length ≤ velocities.length) :
    (advance seconds positions velocities).length = positions.length := by
  rw [advance, List.length_zipWith, Nat.min_eq_left enough]

theorem length_accelerate (enough : positions.length ≤ velocities.length)
    (alsoEnough : positions.length ≤ accelerations.length) :
    (accelerate seconds positions velocities accelerations).length = positions.length := by
  rw [accelerate, List.length_zipWith, length_advance enough, Nat.min_eq_left alsoEnough]

theorem length_turn {rotations : List Quaternion} (enough : rotations.length ≤ velocities.length) :
    (turn seconds rotations velocities).length = rotations.length := by
  rw [turn, List.length_zipWith, Nat.min_eq_left enough]

theorem length_turnHalf {rotations : List HalfQuaternion}
    (enough : rotations.length ≤ velocities.length) :
    (turnHalf seconds rotations velocities).length = rotations.length := by
  rw [turnHalf, List.length_zipWith, Nat.min_eq_left enough]

theorem positions_ends {store : Store} {post : Value → Store → Prop}
    (enough : positions.length ≤ velocities.length)
    (holds : ∀ moved : List (Vector Float32 3), moved.length = positions.length →
      post (.array .float3 moved) store) :
    Ends around store
      (if positions.length ≤ accelerations.length then
        return .array .float3 (accelerate seconds positions velocities accelerations)
      else return .array .float3 (advance seconds positions velocities)) post := by
  split
  · rename_i alsoEnough
    exact .pure (holds _ (length_accelerate enough alsoEnough))
  · exact .pure (holds _ (length_advance enough))

end Motion

namespace MovingPrimvar

variable {primvar : MovingPrimvar} {store after : Store} {motion : MotionSample}

theorem agrees_self (primvar : MovingPrimvar) : primvar.Agrees around around Eq primvar := by
  have same : ∀ {α : Type} (reading : Reads α), Alike around around Eq reading reading := by
    rintro α reading store twin rfl
    exact ⟨rfl, rfl⟩
  have sources : ∀ source : Sampled, source.Agrees around around Eq source := fun source =>
    ⟨fun time => same _, fun start finish => same _⟩
  have places : ∀ place, primvar.prim.AgreesAt around around Eq primvar.prim place := by
    rintro place store twin rfl
    constructor
    · cases (primvar.prim.findSampled place around store).1 with
      | none => exact .none
      | some source => exact .some (sources source)
    · rfl
  exact ⟨rfl, sources _, places _, places _, places _, fun _ => places _, same _⟩

/-- What moves is the value of the source at its bracketing sample, of a type that velocities act
on, and there are velocities for all its items. -/
structure StartsAt (primvar : MovingPrimvar) (around : Surroundings) (motion : MotionSample)
    (after : Store) : Prop where
  time : ∃ asked answered,
    Motion.bracketTime primvar.source 0 around asked = (motion.time, answered)
  value : ∃ before, primvar.source.value motion.time around before = (motion.value, after)
  accepted : primvar.accepts motion.value = true
  enough : motion.value.arraySize ≤ motion.velocities.length

theorem motion?_ends (primvar : MovingPrimvar) (store : Store) :
    Ends around store primvar.motion? fun found after =>
      ∀ motion, found = some motion → primvar.StartsAt around motion after := by
  have still : ∀ store, Ends around store (pure none) fun (found : Option MotionSample) after =>
      ∀ motion, found = some motion → primvar.StartsAt around motion after :=
    fun _ => .pure nofun
  unfold motion?
  apply Ends.bind
  intro found _ _
  cases found with
  | none => exact still _
  | some sampled =>
      apply Ends.bind
      intro time _ brackets
      apply Ends.bind
      intro velocitiesTime _ _
      split
      · exact still _
      apply Ends.bind
      intro sample _ _
      split
      · exact still _
      apply Ends.bind
      intro value _ reads
      split
      · exact still _
      rename_i enough
      apply Ends.pure
      intro motion isFound
      cases isFound
      rcases Bool.or_eq_false_iff.mp (Bool.eq_false_iff.mpr enough) with ⟨few, accepted⟩
      exact ⟨⟨_, _, brackets⟩, ⟨_, reads⟩, by simpa using accepted, by simpa using few⟩

theorem startsAt_of_motion? (moves : primvar.motion? around store = (some motion, after)) :
    primvar.StartsAt around motion after := by
  have ends : Ends around store primvar.motion? _ := primvar.motion?_ends store
  rw [Ends, moves] at ends
  exact ends motion rfl

theorem cases_of_accepts {value : Value} (accepted : primvar.accepts value = true) :
    (∃ rotations, value = .array .quatf rotations) ∨
      (∃ rotations, value = .array .quath rotations) ∨
      ∃ positions, value = .array .float3 positions := by
  unfold accepts at accepted
  split at accepted
  · exact .inl ⟨_, rfl⟩
  · exact .inr (.inl ⟨_, rfl⟩)
  · exact .inr (.inr ⟨_, rfl⟩)
  · contradiction

theorem value_sameShape {mode : MotionMode} {moded : Store}
    (repeats : primvar.source.Repeats around) (modeIs : primvar.mode around store = (mode, moded))
    (heeds : mode ≠ .ignore) (moves : primvar.motion? around moded = (some motion, after))
    (time : Float32) :
    Ends around store (primvar.value time) fun value _ =>
      primvar.accepts value = true ∧ value.SameShape motion.value := by
  have starts := startsAt_of_motion? moves
  apply Ends.bind_of_reads modeIs
  rw [if_neg heeds]
  apply Ends.bind_of_reads moves
  dsimp only
  split
  -- a frozen primvar reads the sample again that it moves from
  · rcases starts.value with ⟨before, started⟩
    have again := repeats motion.time before
    rw [started] at again
    rw [Ends, again]
    exact ⟨starts.accepted, rfl, rfl⟩
  apply Ends.bind
  intro rate _ _
  rcases motion with ⟨value, velocities, sample⟩
  have accepted := starts.accepted
  have enough := starts.enough
  rcases cases_of_accepts accepted with ⟨rotations, rfl⟩ | ⟨rotations, rfl⟩ | ⟨positions, rfl⟩
  · exact .pure ⟨accepted, rfl, Motion.length_turn enough⟩
  · exact .pure ⟨accepted, rfl, Motion.length_turnHalf enough⟩
  · dsimp only
    split
    · apply Ends.bind
      intro accelerations _ _
      exact Motion.positions_ends enough fun _ kept => ⟨accepted, rfl, kept⟩
    · apply Ends.bind
      intro accelerations _ _
      exact Motion.positions_ends enough fun _ kept => ⟨accepted, rfl, kept⟩

/-! ## Constancy -/

/-- Why a moved primvar reports no times: it is not moved and its source reports none, or it stays
at its sample. -/
inductive Stays (primvar : MovingPrimvar) (around : Surroundings) (store : Store)
    (start finish : Float32) : Prop
  | ignoring {moded : Store} (modeIs : primvar.mode around store = (.ignore, moded))
      (constant : (primvar.source.times start finish around moded).1 = none)
  | unmoved {mode : MotionMode} {moded after : Store}
      (modeIs : primvar.mode around store = (mode, moded)) (heeds : mode ≠ .ignore)
      (still : primvar.motion? around moded = (none, after))
      (constant : (primvar.source.times start finish around after).1 = none)
  | frozen {mode : MotionMode} {moded after : Store} {motion : MotionSample}
      (modeIs : primvar.mode around store = (mode, moded)) (heeds : mode ≠ .ignore)
      (moves : primvar.motion? around moded = (some motion, after))
      (freezes : (mode = .disable || primvar.freezes) = true)

theorem times_stays (primvar : MovingPrimvar) (store : Store) (start finish : Float32) :
    Ends around store (primvar.times start finish) fun times _ =>
      times = none → primvar.Stays around store start finish := by
  apply Ends.bind
  intro mode moded modeIs
  split
  · rename_i ignores
    cases ignores
    exact fun constant => .ignoring modeIs constant
  rename_i heeds
  apply Ends.bind
  intro found after foundAt
  cases found with
  | none => exact fun constant => .unmoved modeIs heeds foundAt constant
  | some motion =>
      dsimp only
      split
      · rename_i freezes
        exact fun _ => .frozen modeIs heeds foundAt freezes
      · apply Ends.bind
        intro curved _ _
        split
        · exact .bind fun count _ _ => .pure nofun
        · exact .pure nofun

section Reading

variable {mode : MotionMode} {moded : Store}

theorem value_ignoring (modeIs : primvar.mode around store = (.ignore, moded)) (time : Float32) :
    primvar.value time around store = primvar.source.value time around moded := by
  rw [value, Reads.bind_of_reads modeIs, if_pos rfl]

theorem value_unmoved (modeIs : primvar.mode around store = (mode, moded)) (heeds : mode ≠ .ignore)
    (still : primvar.motion? around moded = (none, after)) (time : Float32) :
    primvar.value time around store = primvar.source.value time around after := by
  rw [value, Reads.bind_of_reads modeIs, if_neg heeds, Reads.bind_of_reads still]

theorem value_frozen (modeIs : primvar.mode around store = (mode, moded)) (heeds : mode ≠ .ignore)
    (moves : primvar.motion? around moded = (some motion, after))
    (freezes : (mode = .disable || primvar.freezes) = true) (time : Float32) :
    primvar.value time around store = primvar.source.value motion.time around after := by
  rw [value, Reads.bind_of_reads modeIs, if_neg heeds, Reads.bind_of_reads moves]
  dsimp only
  rw [if_pos freezes]

end Reading

theorem sampled_reportsChange {type : Option ValueType}
    (agrees : primvar.Agrees around around together primvar)
    (reports : primvar.source.ReportsChange around together) :
    (primvar.sampled type).ReportsChange around together := by
  intro store twin stores start finish constant time other isNumber otherIsNumber
  show (primvar.value time around store).1 = (primvar.value other around twin).1
  cases primvar.times_stays store start finish constant with
  | ignoring modeIs constant =>
      rcases (mode_alike agrees).reads stores modeIs with ⟨twinModed, twinMode, modedStores⟩
      rw [value_ignoring modeIs, value_ignoring twinMode]
      exact reports modedStores start finish constant time other isNumber otherIsNumber
  | unmoved modeIs heeds still constant =>
      rcases (mode_alike agrees).reads stores modeIs with ⟨twinModed, twinMode, modedStores⟩
      rcases (motion?_alike agrees).reads modedStores still with ⟨twinAfter, twinStill, afterStores⟩
      rw [value_unmoved modeIs heeds still, value_unmoved twinMode heeds twinStill]
      exact reports afterStores start finish constant time other isNumber otherIsNumber
  | frozen modeIs heeds moves freezes =>
      rcases (mode_alike agrees).reads stores modeIs with ⟨twinModed, twinMode, modedStores⟩
      rcases (motion?_alike agrees).reads modedStores moves with ⟨twinAfter, twinMoves, afterStores⟩
      rw [value_frozen modeIs heeds moves freezes, value_frozen twinMode heeds twinMoves freezes]
      exact (agrees.source.value _ _ _ afterStores).1

end MovingPrimvar

/-- A moved primvar of a prim is found where it is authored, as a sampled source that is constant
wherever it reports no times, if the authored one is. In whichever mode it is moved, its values at
all times are of the type of the authored value at the bracketing sample, with as many items. -/
theorem Motion.movedData_keepsContract (input : Nat) {name : Token} {prim : Container}
    {source : Sampled} {store after : Store} (affected : movedPrimvars.contains name = true)
    (authored : prim.findSampled (.primvarValue name) around store = (some source, after)) :
    ∃ resolved last,
      (movedData input prim).findSampled (.primvarValue name) around store = (some resolved, last) ∧
      (∀ together,
        MovingPrimvar.Agrees around around together ⟨name, source, prim, input⟩
          ⟨name, source, prim, input⟩ →
        source.ReportsChange around together → resolved.ReportsChange around together) ∧
      (source.Repeats around → ∀ start mode moded motion settled,
        MovingPrimvar.mode ⟨name, source, prim, input⟩ around start = (mode, moded) →
        mode ≠ .ignore →
        MovingPrimvar.motion? ⟨name, source, prim, input⟩ around moded = (some motion, settled) →
        MovingPrimvar.StartsAt ⟨name, source, prim, input⟩ around motion settled ∧
          ∀ time,
            MovingPrimvar.accepts ⟨name, source, prim, input⟩
              (resolved.value time around start).1 = true ∧
            (resolved.value time around start).1.SameShape motion.value) := by
  rcases @movedData_findSampled_value around ⟨name, source, prim, input⟩ store after affected
    authored with ⟨type, last, found⟩
  refine ⟨_, last, found, ?_, ?_⟩
  · intro together agrees reports
    exact MovingPrimvar.sampled_reportsChange agrees reports
  · intro repeats start mode moded motion settled modeIs heeds moves
    exact ⟨MovingPrimvar.startsAt_of_motion? moves,
      MovingPrimvar.value_sameShape repeats modeIs heeds moves⟩

theorem Motion.movedData_keepsContract_drifting :
    movedPrimvars.contains "points" = true ∧
      ∃ source resolved last motion,
        (drifting #v[1, 0, 0]).findSampled (.primvarValue "points") .bare .blank =
          (some source, .blank) ∧
        (movedData 0 (drifting #v[1, 0, 0])).findSampled (.primvarValue "points") .bare .blank =
          (some resolved, last) ∧
        source.ReportsChange .bare Eq ∧ source.Repeats .bare ∧ resolved.ReportsChange .bare Eq ∧
        MovingPrimvar.motion? ⟨"points", source, drifting #v[1, 0, 0], 0⟩ .bare .blank =
          (some motion, .blank) ∧
        motion.value.arraySize = 1 ∧
        ∀ time, (resolved.value time .bare .blank).1.SameShape motion.value := by
  have affected : movedPrimvars.contains "points" = true := by decide
  have authored : (drifting #v[1, 0, 0]).findSampled (.primvarValue "points") .bare .blank =
      (some (.ofValue (.whole 4) (.array .float3 [#v[0, 0, 0]])), .blank) := rfl
  rcases movedData_keepsContract 0 affected authored with
    ⟨resolved, last, found, keeps, shape⟩
  have constant : Sampled.ReportsChange .bare Eq
      (.ofValue (.whole 4) (.array .float3 [#v[0, 0, 0]])) := fun _ _ _ _ _ _ _ _ _ _ => rfl
  have repeats : Sampled.Repeats .bare (.ofValue (.whole 4) (.array .float3 [#v[0, 0, 0]])) :=
    fun _ _ => rfl
  rcases shape repeats .blank .enable .blank ⟨.array .float3 [#v[0, 0, 0]], [#v[1, 0, 0]], 0⟩
    .blank rfl (by decide) rfl with ⟨starts, same⟩
  exact ⟨affected, _, resolved, last, _, authored, found, constant, repeats,
    keeps Eq (MovingPrimvar.agrees_self _) constant, rfl, rfl, fun time => (same time).2⟩

end LayeredScene
