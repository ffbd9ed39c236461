import LayeredScene.Proofs.Motion.Widening

/-! # What motion leaves alone

A motion filter replaces the values of the primvars that move, and declares that a prim depends on
the frame rate. On the way to these values it shows containers of its own, which list the names that
the authored ones list. Everything else is found where it was authored.
-/

namespace LayeredScene

namespace Motion

variable {input : Nat} {prim primvars primvar : Container} {name next member : Token}
variable {rest : List Token} {place : Locator}

/-! ## Places apart from moved values -/

theorem movedPrimvar_walk (other : member ≠ "primvarValue") :
    (movedPrimvar prim input name primvar).toSource.walk (member :: rest) =
      primvar.toSource.walk (member :: rest) := by
  rw [Source.walk_toSource_cons, Source.walk_toSource_cons, movedPrimvar_get other]

theorem movedPrimvarsOf_walk
    (apart : ∀ name ∈ movedPrimvars,
      (⟨"primvars" :: next :: rest⟩ : Locator).meets (.primvarValue name) = false) :
    (movedPrimvarsOf prim input primvars).toSource.walk (next :: rest) =
      primvars.toSource.walk (next :: rest) := by
  cases moves : movedPrimvars.contains next with
  | false => rw [Source.walk_toSource_cons, Source.walk_toSource_cons, movedPrimvarsOf_get moves]
  | true =>
      have unmet := apart next (List.contains_iff_mem.mp moves)
      rw [Locator.meets, Bool.or_eq_false_iff] at unmet
      rcases rest with _ | ⟨member, rest⟩
      · have above : (Locator.primvarValue next).liesUnder ⟨["primvars", next]⟩ = true :=
          Locator.liesUnder_iff.mpr ⟨["primvarValue"], rfl⟩
        rw [unmet.2] at above
        contradiction
      · have other : member ≠ "primvarValue" := by
          rintro rfl
          have below : (⟨"primvars" :: next :: "primvarValue" :: rest⟩ : Locator).liesUnder
              (.primvarValue next) = true := Locator.liesUnder_iff.mpr ⟨rest, rfl⟩
          rw [unmet.1] at below
          contradiction
        exact Source.walk_through (movedPrimvarsOf_get_moved moves) fun _ => movedPrimvar_walk other

theorem movedData_find (notWhole : place.tokens ≠ [])
    (notDependencies : place.tokens.head? ≠ some dependenciesName)
    (apart : ∀ name ∈ movedPrimvars, place.meets (.primvarValue name) = false) :
    (movedData input prim).find place = prim.find place := by
  rcases place with ⟨_ | ⟨name, rest⟩⟩
  · contradiction
  by_cases isPrimvars : name = "primvars"
  · subst isPrimvars
    rcases rest with _ | ⟨next, rest⟩
    -- the primvars as a whole lie above every moved value
    · exact absurd (apart "points" (by decide)) (by decide)
    · exact Source.walk_through movedData_get_primvars fun _ => movedPrimvarsOf_walk apart
  · have other : name ≠ dependenciesName := fun same => notDependencies (congrArg some same)
    rw [Container.find, Container.find, Source.walk_toSource_cons, Source.walk_toSource_cons,
      movedData_get_other isPrimvars other]

/-! ## The way to moved values -/

theorem movedPrimvarsOf_front (name : Token) :
    Option.map Source.front <$> (movedPrimvarsOf prim input primvars).get name =
      Option.map Source.front <$> primvars.get name := by
  cases moves : movedPrimvars.contains name with
  | false => rw [movedPrimvarsOf_get moves]
  | true => exact Source.front_through (movedPrimvarsOf_get_moved moves) fun _ => rfl

theorem movedData_front_primvars :
    Option.map Source.front <$> (movedData input prim).find .primvars =
      Option.map Source.front <$> prim.find .primvars := by
  simp only [Container.find, Locator.primvars, Source.walk_toSource_single]
  exact Source.front_through movedData_get_primvars fun _ => rfl

theorem movedData_front_primvar (name : Token) :
    Option.map Source.front <$> (movedData input prim).find (.primvar name) =
      Option.map Source.front <$> prim.find (.primvar name) := by
  have tokens : (Locator.primvar name).tokens = ["primvars", name] := rfl
  simp only [Container.find, tokens, Source.walk_toSource_cons, map_eq_pure_bind, bind_assoc]
  refine Source.get_bind_eq movedData_get_primvars fun primvars => ?_
  rw [Source.walkBeyond, Source.walkBeyond, Source.walk_toSource_single,
    Source.walk_toSource_single, ← map_eq_pure_bind, ← map_eq_pure_bind]
  exact movedPrimvarsOf_front name

theorem kind_shownValue (found : Option Source) (around : Surroundings) (store : Store) :
    (shownValue prim input name found around store).1.map Source.kind = found.map Source.kind := by
  cases found with
  | none => rfl
  | some source => cases source <;> rfl

theorem movedData_kind_value (moves : name ∈ movedPrimvars) (around : Surroundings)
    (store : Store) :
    ((movedData input prim).find (.primvarValue name) around store).1.map Source.kind =
      (prim.find (.primvarValue name) around store).1.map Source.kind := by
  rw [movedData_find_value (List.contains_iff_mem.mpr moves)]
  exact kind_shownValue _ around _

end Motion

/-- A motion filter shows prims that do not move, and prims without data, as they are. Of the data
of any other prim it changes the values of the primvars that move, each of which is there and
sampled just if the authored one is, and the dependencies, which it lists if they are not listed. On
the way to the values the containers list what they list below, and at all other places the data
below is found. -/
theorem Filter.motion_scene_touches (number input : Nat) (below : Scene) (path : Path) :
    (PrimType.isMovable (below.prim path).type = false ∨ (below.prim path).data = none →
      (Filter.motion.scene number input below).prim path = below.prim path) ∧
    ∀ data, PrimType.isMovable (below.prim path).type = true → (below.prim path).data = some data →
      ∃ shown, (Filter.motion.scene number input below).prim path =
          ⟨(below.prim path).type, some shown⟩ ∧
        shown.names = (fun names => if names.contains dependenciesName then names
          else names ++ [dependenciesName]) <$> data.names ∧
        (∀ place : Locator, place.tokens ≠ [] → place.tokens.head? ≠ some dependenciesName →
          (∀ name ∈ Motion.movedPrimvars, place.meets (.primvarValue name) = false) →
          shown.find place = data.find place) ∧
        (∀ place, place = .primvars ∨ (∃ name, place = .primvar name) →
          Option.map Source.front <$> shown.find place =
            Option.map Source.front <$> data.find place) ∧
        ∀ name ∈ Motion.movedPrimvars, ∀ around store,
          (shown.find (.primvarValue name) around store).1.map Source.kind =
            (data.find (.primvarValue name) around store).1.map Source.kind := by
  constructor
  · intro still
    simp only [Filter.scene, Motion.scene, Motion.movedPrim]
    rcases still with unmovable | noData
    · rw [unmovable]
      rfl
    · split
      · rw [noData]
        exact congrArg (Prim.mk _) noData.symm
      · rfl
  · intro data movable isData
    refine ⟨Motion.movedData input data, ?_, ?_, ?_, ?_, ?_⟩
    · simp only [Filter.scene, Motion.scene, Motion.movedPrim, movable, if_true, isData]
      rfl
    · rw [map_eq_pure_bind]
      rfl
    · exact fun place => Motion.movedData_find
    · rintro place (rfl | ⟨name, rfl⟩)
      · exact Motion.movedData_front_primvars
      · exact Motion.movedData_front_primvar name
    · exact fun name => Motion.movedData_kind_value

def hardlyMoving : Container :=
  .retained (.whole 1) [("primvars", some (Container.retained (.whole 2)
    [("points", some (Container.retained (.whole 3)
        [("primvarValue", some (.sampled (.ofValue (.whole 4) (.array .float3 [#v[5, 0, 0]])))),
          ("role", some (.sampled (.ofValue (.whole 5) (.single .token "point"))))]).toSource),
      ("instanceScales", some .block),
      ("instanceTranslations", some (Container.retained (.whole 6)
        [("primvarValue", some (.retainedVector (.whole 7) []))]).toSource)]).toSource)]

theorem Filter.motion_scene_touches_hardlyMoving :
    ∃ shown,
      (Filter.motion.scene 1 0 ⟨fun _ => ⟨"mesh", some hardlyMoving⟩, fun _ => [], 0⟩).prim .root =
        ⟨"mesh", some shown⟩ ∧
      (shown.names .bare .blank).1 = ["primvars", dependenciesName] ∧
      shown.find ⟨["primvars", "points", "role"]⟩ =
        hardlyMoving.find ⟨["primvars", "points", "role"]⟩ ∧
      Option.map Source.front <$> shown.find (.primvar "instanceScales") =
        Option.map Source.front <$> hardlyMoving.find (.primvar "instanceScales") ∧
      (shown.find (.primvarValue "points") .bare .blank).1.map Source.kind = some "sampled" ∧
      (shown.find (.primvarValue "instanceScales") .bare .blank).1.map Source.kind = none ∧
      (shown.find (.primvarValue "instanceTranslations") .bare .blank).1.map Source.kind =
        some "vector" := by
  rcases (Filter.motion_scene_touches 1 0 ⟨fun _ => ⟨"mesh", some hardlyMoving⟩, fun _ => [], 0⟩
    .root).2 hardlyMoving (by decide) rfl with ⟨shown, shows, names, same, fronts, kinds⟩
  refine ⟨shown, shows, ?_, ?_, ?_, ?_, ?_, ?_⟩
  · rw [names]
    rfl
  · exact same ⟨["primvars", "points", "role"]⟩ (by decide) (by decide) (by decide)
  · exact fronts _ (.inr ⟨"instanceScales", rfl⟩)
  · exact (kinds "points" (by decide) .bare .blank).trans rfl
  · exact (kinds "instanceScales" (by decide) .bare .blank).trans rfl
  · exact (kinds "instanceTranslations" (by decide) .bare .blank).trans rfl

end LayeredScene
