import LayeredScene.Proofs.Motion.MovedData

/-! # Widening what has changed

A motion filter that is told what has changed in a prim says more: what decides about motion changes
what is moved. What it says is enough. Where it says nothing, the prims that it shows before and
after the change agree, as far as the prims below it agree wherever nothing was said to have
changed. -/

namespace LayeredScene

variable {around other : Surroundings} {together : Store → Store → Prop}

def Container.AgreesOutside (around other : Surroundings) (together : Store → Store → Prop)
    (changed : LocatorSet) (container twin : Container) : Prop :=
  ∀ ⦃place⦄, changed.contains place = false → container.AgreesAt around other together twin place

namespace Motion

variable {input : Nat} {prim primvars primvar : Container} {name member : Token}
variable {changed : LocatorSet} {place cause : Locator} {before after : Container}
variable {source twin : Sampled}

/-- The places that decide about the motion of a primvar. -/
def causes (primvar : MovingPrimvar) : LocatorSet :=
  if primvar.turns then rotationCauses else positionCauses

theorem contains_widen (isIn : changed.contains place = true) :
    (widen changed).contains place = true := by
  simp only [widen]
  split <;> split <;> simp [LocatorSet.contains_union, isIn]

theorem positionCause_unchanged (unsaid : (widen changed).contains place = false)
    (isEffect : positionEffects.contains place = true)
    (isCause : positionCauses.contains cause = true) : changed.contains cause = false := by
  rw [← Bool.not_eq_true] at unsaid ⊢
  intro isChanged
  apply unsaid
  have meets := LocatorSet.meets_of_contains isChanged isCause
  simp only [widen, meets, if_true]
  split <;> simp [LocatorSet.contains_union, isEffect]

theorem rotationCause_unchanged (unsaid : (widen changed).contains place = false)
    (isEffect : rotationEffects.contains place = true)
    (isCause : rotationCauses.contains cause = true) : changed.contains cause = false := by
  rw [← Bool.not_eq_true] at unsaid ⊢
  intro isChanged
  apply unsaid
  have isIn : (if changed.meets positionCauses then changed.union positionEffects
      else changed).contains cause = true := by
    split <;> simp [LocatorSet.contains_union, isChanged]
  simp only [widen, LocatorSet.meets_of_contains isIn isCause, if_true]
  simp [LocatorSet.contains_union, isEffect]

theorem cause_unchanged {primvar : MovingPrimvar} {rest : List Token}
    (moves : movedPrimvars.contains primvar.name = true)
    (unsaid : (widen changed).contains ⟨"primvars" :: primvar.name :: "primvarValue" :: rest⟩ =
      false)
    (isCause : (causes primvar).contains cause = true) : changed.contains cause = false := by
  have inside : ∀ {set : LocatorSet}, set.contains (.primvar primvar.name) = true →
      set.contains ⟨"primvars" :: primvar.name :: "primvarValue" :: rest⟩ = true := by
    intro set isIn
    exact LocatorSet.contains_of_liesUnder isIn
      (Locator.liesUnder_iff.mpr ⟨"primvarValue" :: rest, rfl⟩)
  simp only [movedPrimvars, List.contains_eq_mem, List.mem_cons, List.not_mem_nil, or_false,
    decide_eq_true_eq] at moves
  rcases moves with isNamed | isNamed | isNamed | isNamed
  all_goals
    simp only [causes, MovingPrimvar.turns, isNamed] at isCause
    rw [isNamed] at unsaid inside
  · exact positionCause_unchanged unsaid (inside (by decide +kernel)) isCause
  · exact positionCause_unchanged unsaid (inside (by decide +kernel)) isCause
  · exact rotationCause_unchanged unsaid (inside (by decide +kernel)) isCause
  · exact positionCause_unchanged unsaid (inside (by decide +kernel)) isCause

theorem moving_agrees {rest : List Token}
    (agrees : before.AgreesOutside around other together changed after)
    (frameRate : Alike around other together (fun around => around.frameRate input)
      (fun around => around.frameRate input))
    (moves : movedPrimvars.contains name = true)
    (unsaid : (widen changed).contains ⟨"primvars" :: name :: "primvarValue" :: rest⟩ = false)
    (sources : source.Agrees around other together twin) :
    MovingPrimvar.Agrees around other together ⟨name, source, before, input⟩
      ⟨name, twin, after, input⟩ := by
  have unchanged : ∀ cause, (causes ⟨name, source, before, input⟩).contains cause = true →
      changed.contains cause = false := fun cause => cause_unchanged moves unsaid
  simp only [causes] at unchanged
  constructor
  case name => rfl
  case source => exact sources
  case frameRate => exact frameRate
  case mode =>
    apply agrees (unchanged _ _)
    split <;> decide +kernel
  case velocities =>
    apply agrees (unchanged _ _)
    split <;> decide +kernel
  case sampleCount =>
    apply agrees (unchanged _ _)
    split <;> decide +kernel
  case accelerations =>
    intro straight
    apply agrees (unchanged _ _)
    rw [straight]
    decide +kernel

theorem sampledFromMoved_lockstep (rest : List Token)
    (moving : MovingPrimvar.Agrees around other together ⟨name, source, before, input⟩
      ⟨name, twin, after, input⟩) :
    Lockstep around other together
      (sampledFromMoved before input name rest (some (.sampled source)))
      (sampledFromMoved after input name rest (some (.sampled twin)))
      fun found twinFound store twinStore =>
        Option.Rel (Sampled.Agrees around other together) found twinFound ∧
          together store twinStore := by
  refine (moving.source.value 0).lockstep_bind fun value => ?_
  cases rest with
  | nil =>
      exact .pure fun store twinStore stores =>
        ⟨.some (MovingPrimvar.sampled_agrees moving _ _), stores⟩
  | cons member rest => exact .pure fun store twinStore stores => ⟨.none, stores⟩

theorem movedValue_agrees {rest : List Token}
    (agrees : before.AgreesOutside around other together changed after)
    (frameRate : Alike around other together (fun around => around.frameRate input)
      (fun around => around.frameRate input))
    (moves : movedPrimvars.contains name = true)
    (unsaid : (widen changed).contains ⟨"primvars" :: name :: "primvarValue" :: rest⟩ = false) :
    (movedData input before).AgreesAt around other together (movedData input after)
      ⟨"primvars" :: name :: "primvarValue" :: rest⟩ := by
  have unchanged : changed.contains ⟨"primvars" :: name :: "primvarValue" :: rest⟩ = false := by
    rw [← Bool.not_eq_true] at unsaid ⊢
    exact fun isIn => unsaid (contains_widen isIn)
  have valueUnchanged : changed.contains (.primvarValue name) = false := by
    rw [← Bool.not_eq_true] at unchanged ⊢
    exact fun isIn => unchanged
      (LocatorSet.contains_of_liesUnder isIn (Locator.liesUnder_iff.mpr ⟨rest, rfl⟩))
  -- both the value and what moves in its place are reached through what is found at the value
  have reaches : ∀ container : Container,
      container.findSampled ⟨"primvars" :: name :: "primvarValue" :: rest⟩ =
        container.find (.primvarValue name) >>= Source.sampledBeyond rest := fun container =>
    Source.sampledAt_append ["primvars", name, "primvarValue"] rest container.toSource
  have reachesMoved : ∀ container : Container,
      (movedData input container).findSampled ⟨"primvars" :: name :: "primvarValue" :: rest⟩ =
        container.find (.primvarValue name) >>= sampledFromMoved container input name rest :=
    fun container => movedData_sampledAt_value moves rest
  intro store twinStore stores
  have value := agrees valueUnchanged store twinStore stores
  have inner := agrees unchanged store twinStore stores
  rw [reaches, reaches] at inner
  rw [reachesMoved, reachesMoved]
  simp only [Container.findSampled, bind, Pure.pure] at value inner ⊢
  rcases leads : before.find (.primvarValue name) around store with ⟨found, next⟩
  rcases twinLeads : after.find (.primvarValue name) other twinStore with ⟨twinFound, twinNext⟩
  simp only [leads, twinLeads] at value inner ⊢
  rcases value with ⟨related, nextStores⟩
  cases isSampled : found.bind Source.sampled? with
  | none =>
      cases twinIsSampled : twinFound.bind Source.sampled? with
      | none =>
          rw [sampledFromMoved_of_not_sampled isSampled,
            sampledFromMoved_of_not_sampled twinIsSampled]
          exact inner
      | some twin =>
          rw [isSampled, twinIsSampled] at related
          cases related
  | some source =>
      cases twinIsSampled : twinFound.bind Source.sampled? with
      | none =>
          rw [isSampled, twinIsSampled] at related
          cases related
      | some twin =>
          rw [isSampled, twinIsSampled] at related
          cases related with
          | some sources =>
              rw [Source.eq_of_bind_sampled? isSampled, Source.eq_of_bind_sampled? twinIsSampled]
              exact sampledFromMoved_lockstep rest
                (moving_agrees agrees frameRate moves unsaid sources) next twinNext nextStores

theorem frameRateDependencies_agrees (names : List Token) :
    frameRateDependencies.toSource.AgreesAt around other together frameRateDependencies.toSource
      names := by
  have dependencyAgrees : ∀ names, (dependency .root (.sceneGlobal "timeCodesPerSecond") .whole
      (Identity.frameRateDependency.inner 0)).AgreesAt around other together
        (dependency .root (.sceneGlobal "timeCodesPerSecond") .whole
          (Identity.frameRateDependency.inner 0)) names := by
    refine Source.agreesAt_retained ?_
    intro source isMember names
    simp only [List.map_cons, List.map_nil, Blueprint.parts, Blueprint.path,
      Blueprint.constantOf, Option.map_some, List.zip_cons_cons, List.zip_nil_left, List.mem_cons,
      Option.some.injEq, List.not_mem_nil, or_false] at isMember
    rcases isMember with rfl | rfl | rfl <;> exact Source.agreesAt_constantOf _ _ _ names
  refine Source.agreesAt_retained ?_ names
  rintro source isMember names
  simp only [List.map_cons, List.map_nil, List.mem_singleton, Option.some.injEq] at isMember
  rw [isMember]
  exact dependencyAgrees names

theorem agrees_of_unmoved
    (unmoved : ∀ container : Container,
      (movedData input container).toSource.sampledAt place.tokens =
        container.toSource.sampledAt place.tokens)
    (agrees : before.AgreesAt around other together after place) :
    (movedData input before).AgreesAt around other together (movedData input after) place := by
  show Lockstep around other together ((movedData input before).toSource.sampledAt place.tokens)
    ((movedData input after).toSource.sampledAt place.tokens) _
  rw [unmoved, unmoved]
  exact agrees

theorem movedDependencies_agrees {rest : List Token}
    (listed : before.AgreesAt around other together after ⟨[dependenciesName]⟩)
    (agrees : before.AgreesAt around other together after ⟨dependenciesName :: rest⟩) :
    (movedData input before).AgreesAt around other together (movedData input after)
      ⟨dependenciesName :: rest⟩ := by
  cases rest with
  | nil =>
      have shows : ∀ container : Container,
          (movedData input container).findSampled ⟨[dependenciesName]⟩ =
            (fun _ => none) <$> container.findSampled ⟨[dependenciesName]⟩ :=
        fun _ => movedData_sampledAt_dependencies
      rw [Container.AgreesAt, shows, shows]
      exact listed.map fun _ _ store twinStore given => ⟨.none, given.2⟩
  | cons name rest =>
      by_cases isFrameRate : name = frameRateDependencyName
      · subst isFrameRate
        have shows : ∀ container : Container,
            (movedData input container).findSampled
                ⟨dependenciesName :: frameRateDependencyName :: rest⟩ =
              (do
                let _ ← container.findSampled ⟨[dependenciesName]⟩
                frameRateDependencies.findSampled ⟨frameRateDependencyName :: rest⟩) :=
          fun _ => movedData_sampledAt_frameRate rest
        rw [Container.AgreesAt, shows, shows]
        refine Lockstep.bind listed fun _ _ store twinStore given => ?_
        exact frameRateDependencies_agrees _ store twinStore given.2
      · exact agrees_of_unmoved (fun _ => movedData_sampledAt_dependency isFrameRate rest) agrees

theorem movedData_agrees
    (agrees : before.AgreesOutside around other together changed after)
    (frameRate : Alike around other together (fun around => around.frameRate input)
      (fun around => around.frameRate input)) :
    (movedData input before).AgreesOutside around other together (widen changed)
      (movedData input after) := by
  intro place unsaid
  have unchanged : changed.contains place = false := by
    rw [← Bool.not_eq_true] at unsaid ⊢
    exact fun isIn => unsaid (contains_widen isIn)
  rcases place with ⟨_ | ⟨name, rest⟩⟩
  · exact .pure fun store twinStore stores => ⟨.none, stores⟩
  by_cases isDependencies : name = dependenciesName
  · subst isDependencies
    have listUnchanged : changed.contains ⟨[dependenciesName]⟩ = false := by
      rw [← Bool.not_eq_true] at unchanged ⊢
      exact fun isIn => unchanged
        (LocatorSet.contains_of_liesUnder isIn (Locator.liesUnder_iff.mpr ⟨rest, rfl⟩))
    exact movedDependencies_agrees (agrees listUnchanged) (agrees unchanged)
  by_cases isPrimvars : name = "primvars"
  · subst isPrimvars
    cases moved : isMoved rest with
    | false =>
        exact agrees_of_unmoved (fun _ => movedData_sampledAt_primvars moved) (agrees unchanged)
    | true =>
        rcases rest with _ | ⟨name, _ | ⟨member, rest⟩⟩
        · contradiction
        · contradiction
        · simp only [isMoved, Bool.and_eq_true, decide_eq_true_eq] at moved
          rcases moved with ⟨moves, rfl⟩
          exact movedValue_agrees agrees frameRate moves unsaid
  · exact agrees_of_unmoved (fun _ => movedData_sampledAt_other isPrimvars isDependencies rest)
      (agrees unchanged)

end Motion

/-- What a motion filter passes on about a prim covers what it was told. Where it covers nothing,
the data that the filter shows of that prim before and after the change agrees, given that the data
below agrees wherever the filter was told nothing and that the frame rate is the same. -/
theorem Filter.motion_respond_covers (number input : Nat) (told : Scene)
    (entries : List (Path × LocatorSet)) :
    ∃ sent, Filter.motion.respond told (.dirtied entries) = [.dirtied sent] ∧
      ∀ (position : Nat) (path : Path) (changed : LocatorSet),
        entries[position]? = some (path, changed) →
        ∃ covered, sent[position]? = some (path, covered) ∧
          (∀ place, changed.contains place = true → covered.contains place = true) ∧
          ∀ (below belowAfter : Scene) (type : Token) (before after : Container),
            below.prim path = ⟨type, some before⟩ →
            belowAfter.prim path = ⟨type, some after⟩ →
            Alike around other together (fun around => around.frameRate input)
              (fun around => around.frameRate input) →
            before.AgreesOutside around other together changed after →
            ∃ shown shownAfter,
              (Filter.motion.scene number input below).prim path = ⟨type, some shown⟩ ∧
              (Filter.motion.scene number input belowAfter).prim path = ⟨type, some shownAfter⟩ ∧
              shown.AgreesOutside around other together covered shownAfter := by
  refine ⟨entries.map fun entry => (entry.1, Motion.widen entry.2), rfl, ?_⟩
  intro position path changed isTold
  refine ⟨Motion.widen changed, by simp [isTold], fun place => Motion.contains_widen, ?_⟩
  intro below belowAfter type before after served servedAfter frameRate agrees
  have shows : ∀ (scene : Scene) (data : Container), scene.prim path = ⟨type, some data⟩ →
      (Filter.motion.scene number input scene).prim path =
        ⟨type, some (if PrimType.isMovable type then Motion.movedData input data else data)⟩ := by
    intro scene data isServed
    simp only [Filter.scene, Motion.scene, Motion.movedPrim, isServed]
    split <;> rfl
  refine ⟨_, _, shows below before served, shows belowAfter after servedAfter, ?_⟩
  split
  · exact Motion.movedData_agrees agrees frameRate
  · intro place unsaid
    apply agrees
    rw [← Bool.not_eq_true] at unsaid ⊢
    exact fun isIn => unsaid (Motion.contains_widen isIn)

/-! ## A prim whose velocities change -/

def drifting (velocity : Vector Float32 3) : Container :=
  .retained (.whole 1) [("primvars", some (Container.retained (.whole 2)
    [("points", some (Container.retained (.whole 3) [("primvarValue",
        some (.sampled (.ofValue (.whole 4) (.array .float3 [#v[0, 0, 0]]))))]).toSource),
      ("velocities", some (Container.retained (.whole 5) [("primvarValue",
        some (.sampled (.ofValue (.whole 6) (.array .float3 [velocity]))))]).toSource)]).toSource)]

theorem drifting_sampledAt {velocity twinVelocity : Vector Float32 3} {names : List Token}
    (outside : ¬["primvars", "velocities"] <+: names) :
    (drifting velocity).toSource.sampledAt names =
      (drifting twinVelocity).toSource.sampledAt names := by
  rcases names with _ | ⟨name, rest⟩
  · rw [Source.sampledAt_toSource_nil, Source.sampledAt_toSource_nil]
  rw [drifting, drifting, Source.sampledAt_retained, Source.sampledAt_retained]
  simp only [memberNamed, List.find?_cons]
  by_cases isPrimvars : "primvars" = name
  · subst isPrimvars
    rcases rest with _ | ⟨member, rest⟩
    · simp only [Source.sampledBeyond, decide_true, Option.bind_some, Source.sampledAt_toSource_nil]
    have other : "velocities" ≠ member := by
      rintro rfl
      exact outside ⟨rest, rfl⟩
    simp only [Source.sampledBeyond, decide_true, Option.bind_some, Source.sampledAt_retained,
      memberNamed, List.find?_cons, other, decide_false, List.find?_nil]
  · simp [isPrimvars]

theorem drifting_agreesOutside (velocity twinVelocity : Vector Float32 3) :
    (drifting velocity).AgreesOutside .bare .bare Eq (.single (.primvar "velocities"))
      (drifting twinVelocity) := by
  intro place outside
  have same : (drifting velocity).findSampled place = (drifting twinVelocity).findSampled place := by
    apply drifting_sampledAt
    rintro ⟨rest, inside⟩
    rw [LocatorSet.single, ← Bool.not_eq_true, LocatorSet.contains_insert] at outside
    exact outside (.inr (Locator.liesUnder_iff.mpr ⟨rest, inside⟩))
  rintro store twin rfl
  rw [same]
  refine ⟨?_, rfl⟩
  cases ((drifting twinVelocity).findSampled place .bare store).1 with
  | none => exact .none
  | some source =>
      constructor
      constructor
      · rintro time store twin rfl
        exact ⟨rfl, rfl⟩
      · rintro start finish store twin rfl
        exact ⟨rfl, rfl⟩

theorem Filter.motion_respond_covers_drifting :
    ∃ sent covered shown shownAfter,
      Filter.motion.respond .bare (.dirtied [(.root, .single (.primvar "velocities"))]) =
        [.dirtied sent] ∧
      sent[0]? = some (Path.root, covered) ∧
      (Filter.motion.scene 1 0 ⟨fun _ => ⟨"mesh", some (drifting #v[1, 0, 0])⟩,
        fun _ => [], 0⟩).prim .root = ⟨"mesh", some shown⟩ ∧
      (Filter.motion.scene 1 0 ⟨fun _ => ⟨"mesh", some (drifting #v[0, 1, 0])⟩,
        fun _ => [], 0⟩).prim .root = ⟨"mesh", some shownAfter⟩ ∧
      shown.AgreesOutside .bare .bare Eq covered shownAfter := by
  rcases Filter.motion_respond_covers 1 0 .bare [(.root, .single (.primvar "velocities"))] with
    ⟨sent, responds, covers⟩
  rcases covers 0 .root _ rfl with ⟨covered, isSent, -, agrees⟩
  have frameRate : Alike .bare .bare Eq (fun around => around.frameRate 0)
      (fun around => around.frameRate 0) := by
    rintro store twin rfl
    exact ⟨rfl, rfl⟩
  rcases agrees ⟨fun _ => ⟨"mesh", some (drifting #v[1, 0, 0])⟩, fun _ => [], 0⟩
      ⟨fun _ => ⟨"mesh", some (drifting #v[0, 1, 0])⟩, fun _ => [], 0⟩ "mesh" _ _ rfl rfl frameRate
      (drifting_agreesOutside _ _) with ⟨shown, shownAfter, shows, showsAfter, outside⟩
  exact ⟨sent, covered, shown, shownAfter, responds, isSent, shows, showsAfter, outside⟩

end LayeredScene
