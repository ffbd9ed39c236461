import LayeredScene.Filter.Basic
import LayeredScene.Proofs.Source.Lockstep
import LayeredScene.Proofs.Source.Wrapping

/-! # Moved data

What velocities do to the data of a prim, as far as it can be told from the sampled sources found in
it. A moved value is read from a few places only: two of them that are read alike move alike. All
other sampled sources are found in the moved data where they are found in the data below.
-/

namespace LayeredScene

variable {around other : Surroundings} {together : Store → Store → Prop}

/-! ## Moved values -/

theorem Motion.bracketTime_alike {source twin : Sampled}
    (agrees : source.Agrees around other together twin) (fallback : Float32) :
    Alike around other together (bracketTime source fallback) (bracketTime twin fallback) :=
  (agrees.times 0 0).bind fun times => .pure ((times.bind List.head?).getD fallback)

namespace MovingPrimvar

variable {primvar twin : MovingPrimvar}

/-- What there is to two primvars for them to move alike: they have one name, and all that decides
about their motion agrees. Accelerations do not turn anything. -/
structure Agrees (around other : Surroundings) (together : Store → Store → Prop)
    (primvar twin : MovingPrimvar) : Prop where
  name : twin.name = primvar.name
  source : primvar.source.Agrees around other together twin.source
  mode : primvar.prim.AgreesAt around other together twin.prim .motionMode
  velocities : primvar.prim.AgreesAt around other together twin.prim
    (.primvarValue (if primvar.turns then "angularVelocities" else "velocities"))
  sampleCount : primvar.prim.AgreesAt around other together twin.prim
    (.primvarValue Motion.sampleCountName)
  accelerations : primvar.turns = false →
    primvar.prim.AgreesAt around other together twin.prim (.primvarValue "accelerations")
  frameRate : Alike around other together (fun around => around.frameRate primvar.input)
    (fun around => around.frameRate twin.input)

namespace Agrees

theorem turns (agrees : primvar.Agrees around other together twin) :
    twin.turns = primvar.turns := by
  rw [MovingPrimvar.turns, agrees.name, MovingPrimvar.turns]

theorem freezes (agrees : primvar.Agrees around other together twin) :
    twin.freezes = primvar.freezes := by
  rw [MovingPrimvar.freezes, agrees.name, MovingPrimvar.freezes]

end Agrees

def modeSaid : Option Sampled → Reads MotionMode
  | some sampled => do return ((← sampled.value 0).token?.bind MotionMode.named?).getD .enable
  | none => pure .enable

theorem mode_eq (primvar : MovingPrimvar) :
    primvar.mode = primvar.prim.findSampled .motionMode >>= modeSaid := by
  -- the mode is looked up by its name, which is where the locator of the mode leads
  have found : primvar.prim.findSampled .motionMode =
      (do return (← primvar.prim.get "velocityMotionMode").bind Source.sampled?) := by
    funext around store
    simp only [Container.findSampled, Container.find, Locator.motionMode, Source.walk, Source.child,
      Source.container?_toSource, bind, Pure.pure]
    cases found : (primvar.prim.get "velocityMotionMode" around store) with
    | mk result after => cases result <;> rfl
  rw [found]
  funext around store
  simp only [mode, bind, Pure.pure]
  cases (primvar.prim.get "velocityMotionMode" around store).1.bind Source.sampled? <;> rfl

theorem mode_alike (agrees : primvar.Agrees around other together twin) :
    Alike around other together primvar.mode twin.mode := by
  rw [mode_eq, mode_eq]
  refine agrees.mode.bind (.pure _) fun source twinSource sources => ?_
  exact (sources.value 0).bind fun value => .pure _

theorem sampleCount_alike (agrees : primvar.Agrees around other together twin) :
    Alike around other together primvar.sampleCount twin.sampleCount := by
  refine agrees.sampleCount.bind (.pure _) fun source twinSource sources => ?_
  exact (sources.value 0).bind fun value => .pure _

theorem accelerations_alike (agrees : primvar.Agrees around other together twin)
    (straight : primvar.turns = false) (time : Float32) :
    Alike around other together (primvar.accelerations time) (twin.accelerations time) := by
  refine (agrees.accelerations straight).bind (.pure _) fun source twinSource sources => ?_
  refine (Motion.bracketTime_alike sources time).bind fun ownTime => ?_
  split
  · exact .pure _
  · exact (sources.value ownTime).bind fun value => .pure _

theorem accepts_eq (agrees : primvar.Agrees around other together twin) (value : Value) :
    twin.accepts value = primvar.accepts value := by
  simp only [accepts, agrees.turns]

theorem motion?_lockstep (agrees : primvar.Agrees around other together twin) :
    Lockstep around other together primvar.motion? twin.motion?
      fun motion twinMotion store twinStore =>
        motion = twinMotion ∧ (∀ moves, motion = some moves → primvar.accepts moves.value = true) ∧
          together store twinStore := by
  have still : Lockstep around other together (pure none) (pure none)
      fun (motion twinMotion : Option MotionSample) store twinStore =>
        motion = twinMotion ∧ (∀ moves, motion = some moves → primvar.accepts moves.value = true) ∧
          together store twinStore :=
    .pure fun store twinStore stores => ⟨rfl, nofun, stores⟩
  unfold motion?
  simp only [agrees.turns, accepts_eq agrees]
  refine agrees.velocities.lockstep_bind still fun velocities twinVelocities sources => ?_
  refine (Motion.bracketTime_alike agrees.source 0).lockstep_bind fun time => ?_
  refine (Motion.bracketTime_alike sources 0).lockstep_bind fun velocitiesTime => ?_
  split
  · exact still
  · refine (sources.value time).lockstep_bind fun value => ?_
    split
    · exact still
    · refine (agrees.source.value time).lockstep_bind fun value => ?_
      split
      · exact still
      · rename_i moves
        refine .pure fun store twinStore stores => ⟨rfl, ?_, stores⟩
        rintro motion ⟨⟩
        simpa using (Bool.or_eq_false_iff.mp (Bool.eq_false_iff.mpr moves)).2

theorem motion?_alike (agrees : primvar.Agrees around other together twin) :
    Alike around other together primvar.motion? twin.motion? :=
  (motion?_lockstep agrees).imp fun _ _ _ _ given => ⟨given.1, given.2.2⟩

theorem curves_alike (agrees : primvar.Agrees around other together twin) (mode : MotionMode)
    (motion : MotionSample) :
    Alike around other together (primvar.curves mode motion) (twin.curves mode motion) := by
  rw [curves, curves, agrees.turns]
  split
  · exact .pure _
  · rename_i straight
    split
    · exact (accelerations_alike agrees (by simpa using straight) motion.time).map _
    · exact .pure _

theorem times_alike (agrees : primvar.Agrees around other together twin) (start finish : Float32) :
    Alike around other together (primvar.times start finish) (twin.times start finish) := by
  refine (mode_alike agrees).bind fun mode => ?_
  split
  · exact agrees.source.times start finish
  · refine (motion?_alike agrees).bind fun motion => ?_
    cases motion with
    | none => exact agrees.source.times start finish
    | some motion =>
        simp only [agrees.freezes]
        split
        · exact .pure _
        · refine (curves_alike agrees mode motion).bind fun curved => ?_
          split
          · exact (sampleCount_alike agrees).bind fun count => .pure _
          · exact .pure _

theorem value_alike (agrees : primvar.Agrees around other together twin) (time : Float32) :
    Alike around other together (primvar.value time) (twin.value time) := by
  refine (mode_alike agrees).bind fun mode => ?_
  split
  · exact agrees.source.value time
  · refine Lockstep.bind (motion?_lockstep agrees) fun motion twinMotion store twinStore given => ?_
    rcases given with ⟨rfl, accepted, stores⟩
    revert store twinStore
    cases motion with
    | none => exact agrees.source.value time
    | some motion =>
        simp only [agrees.freezes]
        split
        · exact agrees.source.value motion.time
        · refine agrees.frameRate.bind fun rate => ?_
          split
          · exact .pure _
          · exact .pure _
          · rename_i isPositions
            have straight : primvar.turns = false := by
              have moves := accepted motion rfl
              rw [isPositions] at moves
              simpa [accepts] using moves
            split
            · refine (Alike.pure []).bind fun accelerations => ?_
              split <;> exact .pure _
            · refine (accelerations_alike agrees straight motion.time).bind fun accelerations => ?_
              split <;> exact .pure _
          · exact .pure _

theorem sampled_agrees (agrees : primvar.Agrees around other together twin)
    (type twinType : Option ValueType) :
    (primvar.sampled type).Agrees around other together (twin.sampled twinType) :=
  ⟨value_alike agrees, times_alike agrees⟩

end MovingPrimvar

/-! ## Where moved data differs -/

namespace Source

def sampledAt (names : List Token) (source : Source) : Reads (Option Sampled) := do
  return (← source.walk names).bind sampled?

/-- The sampled source that names lead to from what was found, if anything was. -/
@[simp] def sampledBeyond (rest : List Token) : Option Source → Reads (Option Sampled)
  | some found => found.sampledAt rest
  | none => pure none

theorem sampledAt_cons (name : Token) (rest : List Token) (source : Source) :
    source.sampledAt (name :: rest) = source.child name >>= sampledBeyond rest := by
  funext around store
  simp only [sampledAt, walk, bind, Pure.pure]
  cases source.child name around store with
  | mk found after => cases found <;> rfl

theorem sampledAt_toSource_nil (container : Container) :
    container.toSource.sampledAt [] = pure none :=
  rfl

theorem sampledAt_append (start rest : List Token) (source : Source) :
    source.sampledAt (start ++ rest) = source.walk start >>= sampledBeyond rest := by
  rw [sampledAt, walk_append]
  funext around store
  simp only [bind, Pure.pure]
  cases source.walk start around store with
  | mk found after => cases found <;> rfl

def AgreesAt (around other : Surroundings) (together : Store → Store → Prop)
    (source twin : Source) (names : List Token) : Prop :=
  Lockstep around other together (source.sampledAt names) (twin.sampledAt names)
    fun found twinFound store twinStore =>
      Option.Rel (Sampled.Agrees around other together) found twinFound ∧ together store twinStore

theorem agreesAt_constantOf (identity : Identity) (type : ValueType) (content : type.Content)
    (names : List Token) :
    (Source.sampled (.constantOf identity type content)).AgreesAt around other together
      (Source.sampled (.constantOf identity type content)) names := by
  have agrees : (Sampled.constantOf identity type content).Agrees around other together
      (.constantOf identity type content) :=
    ⟨fun time => (Alike.pure content).map type.wrap, fun start finish => .pure none⟩
  cases names with
  | nil => exact .pure fun store twinStore stores => ⟨.some agrees, stores⟩
  | cons name rest => exact .pure fun store twinStore stores => ⟨.none, stores⟩

theorem mem_of_memberNamed {members : List (Token × Option Source)} {name : Token}
    {source : Source} (isNamed : memberNamed members name = some source) :
    some source ∈ members.map (·.2) := by
  rcases Option.bind_eq_some_iff.mp isNamed with ⟨member, found, isSource⟩
  exact List.mem_map.mpr ⟨member, List.mem_of_find?_eq_some found, isSource⟩

theorem sampledAt_retained {identity : Identity} {members : List (Token × Option Source)}
    {name : Token} {rest : List Token} :
    (Container.retained identity members).toSource.sampledAt (name :: rest) =
      sampledBeyond rest (memberNamed members name) :=
  sampledAt_cons name rest _

theorem agreesAt_retained {identity : Identity} {members : List (Token × Option Source)}
    (agree : ∀ source, some source ∈ members.map (·.2) → ∀ names,
      source.AgreesAt around other together source names) (names : List Token) :
    (Container.retained identity members).toSource.AgreesAt around other together
      (Container.retained identity members).toSource names := by
  cases names with
  | nil => exact .pure fun store twinStore stores => ⟨.none, stores⟩
  | cons name rest =>
      rw [AgreesAt, sampledAt_retained]
      cases isNamed : memberNamed members name with
      | none => exact .pure fun store twinStore stores => ⟨.none, stores⟩
      | some source => exact agree source (mem_of_memberNamed isNamed) rest

theorem eq_of_bind_sampled? {found : Option Source} {source : Sampled}
    (isSampled : found.bind sampled? = some source) : found = some (.sampled source) := by
  cases found with
  | none => contradiction
  | some found => cases found with
    | sampled content =>
        cases isSampled
        rfl
    | _ => contradiction

end Source

namespace Motion

variable {input : Nat} {prim primvars primvar : Container} {name member : Token}
variable {names : List Token}

theorem movedPrimvar_get (other : member ≠ "primvarValue") :
    (movedPrimvar prim input name primvar).get member = primvar.get member := by
  funext around store
  simp only [movedPrimvar, bind, Pure.pure]
  cases primvar.get member around store with
  | mk found after => cases found <;> simp [other]

theorem movedPrimvarsOf_get (stays : movedPrimvars.contains name = false) :
    (movedPrimvarsOf prim input primvars).get name = primvars.get name := by
  simp only [movedPrimvarsOf, stays]
  refine (bind_congr fun found => ?_).trans (bind_pure _)
  cases found <;> rfl

theorem movedPrimvarsOf_get_moved (moves : movedPrimvars.contains name = true) :
    (movedPrimvarsOf prim input primvars).get name =
      Option.map (Source.behind (movedPrimvar prim input name)) <$> primvars.get name := by
  simp only [movedPrimvarsOf, moves, map_eq_pure_bind]
  apply bind_congr
  intro found
  cases found with
  | none => rfl
  | some found =>
      rw [Option.map_some, Source.behind]
      cases isContainer : found.container? <;> simp [isContainer]

theorem movedData_get_primvars :
    (movedData input prim).get "primvars" =
      Option.map (Source.behind (movedPrimvarsOf prim input)) <$> prim.get "primvars" := by
  have notDependencies : "primvars" ≠ dependenciesName := by decide
  simp only [movedData, if_neg notDependencies, if_true, map_eq_pure_bind]
  apply bind_congr
  intro found
  cases found with
  | none => rfl
  | some found =>
      rw [Option.map_some, Source.behind, Option.bind_some]
      cases found.container? <;> rfl

theorem movedData_get_other (notPrimvars : name ≠ "primvars")
    (notDependencies : name ≠ dependenciesName) :
    (movedData input prim).get name = prim.get name := by
  simp only [movedData, if_neg notPrimvars, if_neg notDependencies, bind_pure]

theorem movedPrimvar_sampledAt (unmoved : names.head? ≠ some "primvarValue") :
    (movedPrimvar prim input name primvar).toSource.sampledAt names =
      primvar.toSource.sampledAt names := by
  cases names with
  | nil => rfl
  | cons member rest =>
      have other : member ≠ "primvarValue" := fun same => unmoved (congrArg some same)
      simp only [Source.sampledAt_cons, Source.child, Source.container?_toSource,
        movedPrimvar_get other]

def isMoved : List Token → Bool
  | name :: member :: _ => movedPrimvars.contains name && member = "primvarValue"
  | _ => false

theorem movedPrimvarsOf_sampledAt (unmoved : isMoved names = false) :
    (movedPrimvarsOf prim input primvars).toSource.sampledAt names =
      primvars.toSource.sampledAt names := by
  cases names with
  | nil => rfl
  | cons name rest =>
      rw [Source.sampledAt_cons, Source.sampledAt_cons]
      cases moves : movedPrimvars.contains name with
      | false => exact congrArg (· >>= Source.sampledBeyond rest) (movedPrimvarsOf_get moves)
      | true =>
          have other : rest.head? ≠ some "primvarValue" := by
            cases rest with
            | nil => simp
            | cons member rest =>
                simp only [isMoved, moves, Bool.true_and] at unmoved
                simpa using unmoved
          exact Source.get_bind_eq (movedPrimvarsOf_get_moved moves)
            fun _ => movedPrimvar_sampledAt other

theorem movedData_sampledAt_other (notPrimvars : name ≠ "primvars")
    (notDependencies : name ≠ dependenciesName) (rest : List Token) :
    (movedData input prim).toSource.sampledAt (name :: rest) =
      prim.toSource.sampledAt (name :: rest) := by
  rw [Source.sampledAt_cons, Source.sampledAt_cons]
  exact congrArg (· >>= Source.sampledBeyond rest) (movedData_get_other notPrimvars notDependencies)

theorem movedData_sampledAt_primvars (unmoved : isMoved names = false) :
    (movedData input prim).toSource.sampledAt ("primvars" :: names) =
      prim.toSource.sampledAt ("primvars" :: names) := by
  rw [Source.sampledAt_cons, Source.sampledAt_cons]
  exact Source.get_bind_eq movedData_get_primvars fun _ => movedPrimvarsOf_sampledAt unmoved

def shownValue (prim : Container) (input : Nat) (name : Token) :
    Option Source → Reads (Option Source)
  | some (.sampled source) => do
      let moving : MovingPrimvar := ⟨name, source, prim, input⟩
      return some (.sampled (moving.sampled (MovingPrimvar.typeOf (← source.value 0))))
  | found => pure found

theorem movedPrimvar_get_value :
    (movedPrimvar prim input name primvar).get "primvarValue" =
      primvar.get "primvarValue" >>= shownValue prim input name := by
  simp only [movedPrimvar, if_true]
  apply bind_congr
  intro found
  cases found with
  | none => rfl
  | some found => cases found <;> rfl

theorem movedData_find_value (moves : movedPrimvars.contains name = true) :
    (movedData input prim).find (.primvarValue name) =
      prim.find (.primvarValue name) >>= shownValue prim input name := by
  simp only [Container.find, Locator.primvarValue, Source.walk_toSource_cons, bind_assoc]
  refine Source.get_bind_eq_bind movedData_get_primvars rfl (fun source notContainer => ?_) ?_
  · rw [Source.walkBeyond, Source.walk_of_not_container notContainer]
    rfl
  intro primvars
  rw [Source.walkBeyond, Source.walkBeyond, Source.walk_toSource_cons, Source.walk_toSource_cons,
    bind_assoc]
  refine Source.get_bind_eq_bind (movedPrimvarsOf_get_moved moves) rfl
    (fun source notContainer => ?_) ?_
  · rw [Source.walkBeyond, Source.walk_of_not_container notContainer]
    rfl
  intro primvar
  rw [Source.walkBeyond, Source.walkBeyond, Source.walk_toSource_single,
    Source.walk_toSource_single, movedPrimvar_get_value]

def sampledFromMoved (prim : Container) (input : Nat) (name : Token) (rest : List Token) :
    Option Source → Reads (Option Sampled)
  | some (.sampled source) => do
      let moving : MovingPrimvar := ⟨name, source, prim, input⟩
      (Source.sampled (moving.sampled (MovingPrimvar.typeOf (← source.value 0)))).sampledAt rest
  | some found => found.sampledAt rest
  | none => pure none

theorem movedData_sampledAt_value (moves : movedPrimvars.contains name = true)
    (rest : List Token) :
    (movedData input prim).toSource.sampledAt ("primvars" :: name :: "primvarValue" :: rest) =
      prim.find (.primvarValue name) >>= sampledFromMoved prim input name rest := by
  have leads := Source.sampledAt_append ["primvars", name, "primvarValue"] rest
    (movedData input prim).toSource
  have found : (movedData input prim).toSource.walk ["primvars", name, "primvarValue"] = _ :=
    movedData_find_value moves
  rw [found, bind_assoc] at leads
  refine leads.trans (bind_congr fun found => ?_)
  cases found with
  | none => rfl
  | some found => cases found <;> rfl

theorem movedData_findSampled_value {primvar : MovingPrimvar} {store after : Store}
    (moves : movedPrimvars.contains primvar.name = true)
    (authored : primvar.prim.findSampled (.primvarValue primvar.name) around store =
      (some primvar.source, after)) :
    ∃ type last,
      (movedData primvar.input primvar.prim).findSampled (.primvarValue primvar.name) around store =
        (some (primvar.sampled type), last) := by
  have leads : (movedData primvar.input primvar.prim).findSampled (.primvarValue primvar.name) =
      primvar.prim.find (.primvarValue primvar.name) >>=
        sampledFromMoved primvar.prim primvar.input primvar.name [] :=
    movedData_sampledAt_value moves []
  simp only [Container.findSampled, bind, Pure.pure, Prod.mk.injEq] at authored
  rcases authored with ⟨isSampled, rfl⟩
  have isFound := Source.eq_of_bind_sampled? isSampled
  rw [leads]
  simp only [bind, isFound, sampledFromMoved, Source.sampledAt, Source.walk, Pure.pure]
  exact ⟨_, _, rfl⟩

theorem sampledFromMoved_of_not_sampled {found : Option Source} {rest : List Token} :
    found.bind Source.sampled? = none →
      sampledFromMoved prim input name rest found = Source.sampledBeyond rest found := by
  intro notSampled
  cases found with
  | none => rfl
  | some found =>
      cases found with
      | sampled source => contradiction
      | _ => rfl

theorem movedData_sampledAt_dependenciesName (rest : List Token) :
    (movedData input prim).toSource.sampledAt (dependenciesName :: rest) =
      (do
        let found ← prim.get dependenciesName
        Source.sampledBeyond rest
          ((Container.overlayPresent none (some frameRateDependencies)
            (found.bind Source.container?)).map Container.toSource)) := by
  simp only [Source.sampledAt_cons, Source.child, Source.container?_toSource, movedData, if_true,
    bind_assoc, pure_bind]

theorem movedData_sampledAt_dependencies :
    (movedData input prim).toSource.sampledAt [dependenciesName] =
      (fun _ => none) <$> prim.toSource.sampledAt [dependenciesName] := by
  rw [movedData_sampledAt_dependenciesName, Source.sampledAt_cons, map_bind]
  apply bind_congr
  intro found
  cases found with
  | none => rfl
  | some found => cases found <;> rfl

theorem movedData_sampledAt_frameRate (rest : List Token) :
    (movedData input prim).toSource.sampledAt (dependenciesName :: frameRateDependencyName :: rest) =
      (do
        let _ ← prim.toSource.sampledAt [dependenciesName]
        frameRateDependencies.toSource.sampledAt (frameRateDependencyName :: rest)) := by
  rw [movedData_sampledAt_dependenciesName, Source.sampledAt_cons, bind_assoc]
  apply bind_congr
  intro found
  cases found with
  | none => rfl
  | some found => cases found <;> rfl

theorem movedData_sampledAt_dependency (other : name ≠ frameRateDependencyName)
    (rest : List Token) :
    (movedData input prim).toSource.sampledAt (dependenciesName :: name :: rest) =
      prim.toSource.sampledAt (dependenciesName :: name :: rest) := by
  have missing : frameRateDependencies.get name = pure none := by
    simp [frameRateDependencies, Container.retained, memberNamed, other.symm]
  have alone : frameRateDependencies.toSource.sampledAt (name :: rest) = pure none := by
    rw [Source.sampledAt_cons, Source.child, Source.container?_toSource]
    simp [missing]
  rw [movedData_sampledAt_dependenciesName, Source.sampledAt_cons]
  apply bind_congr
  intro found
  cases found with
  | none => exact alone
  | some found =>
      rw [Source.sampledBeyond, Source.sampledAt_cons, Source.child, Option.bind_some]
      cases found.container? with
      | none => exact alone
      | some container =>
          simp only [Container.overlayPresent, Option.map_some, Source.sampledBeyond,
            Source.sampledAt_cons, Source.child, Source.container?_toSource, Container.overlay,
            Container.strongest, missing, pure_bind, bind_assoc]
          apply bind_congr
          intro member
          cases member with
          | none => rfl
          | some member => cases member with
            | block => cases rest <;> rfl
            | _ => rfl

end Motion

end LayeredScene
