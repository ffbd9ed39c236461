import LayeredScene.Filter.Basic
import LayeredScene.TimeSamples.Order

/-! # Globals as they are read

Whoever reads the globals of a scene over which a filter publishes some gets those of the filter,
whatever the scene itself has at its root. A setting changes no other member than its own. One that
holds already may replace a frame, but only by one that counts as the same: an equal number, or
another that is no number.
-/

namespace LayeredScene

open Float.Model

/-! ## The same number -/

/-- Two numbers are equal, or neither is a number. -/
def SameNumber (number other : Float) : Prop :=
  (number == other) = true ∨ number.isNaN = true ∧ other.isNaN = true

def rank? (number : Float) : Option TimeOrder.Rank :=
  if number.isNaN then none else some (TimeOrder.rankOf number.toModel.unpack)

theorem isNaN_iff {number : Float} :
    number.isNaN = true ↔ number.toModel.unpack = .notANumber := by
  change number.toModel.unpack.isNaN = true ↔ _
  cases number.toModel.unpack with
  | notANumber => exact iff_of_true rfl rfl
  | _ => exact iff_of_false Bool.false_ne_true UnpackedFloat.noConfusion

theorem sameNumber_iff {number other : Float} :
    SameNumber number other ↔ rank? number = rank? other := by
  have equal : (number == other) = true ↔
      number.toModel.unpack ≠ .notANumber ∧ other.toModel.unpack ≠ .notANumber ∧
        TimeOrder.rankOf number.toModel.unpack = TimeOrder.rankOf other.toModel.unpack := by
    have byModel : (number == other) =
        (number.toModel.unpack.compare other.toModel.unpack).any (· == .eq) :=
      TimeOrder.beq_some_eq_any _ .eq
    rw [byModel, TimeOrder.any_compare_iff, beq_iff_eq, compare_eq_iff_eq]
  rw [SameNumber, equal, ne_eq, ne_eq, ← isNaN_iff, ← isNaN_iff, rank?, rank?]
  cases number.isNaN <;> cases other.isNaN <;> simp

theorem SameNumber.trans {number other third : Float} (first : SameNumber number other)
    (second : SameNumber other third) : SameNumber number third :=
  sameNumber_iff.mpr ((sameNumber_iff.mp first).trans (sameNumber_iff.mp second))

inductive SameAnswer : Option Value → Option Value → Prop
  | refl (answer : Option Value) : SameAnswer answer answer
  | number {number other : Float} (same : SameNumber number other) :
      SameAnswer (some (.single .double number)) (some (.single .double other))

theorem SameAnswer.trans {first second third : Option Value} (earlier : SameAnswer first second)
    (later : SameAnswer second third) : SameAnswer first third := by
  cases earlier with
  | refl => exact later
  | number same =>
      cases later with
      | refl => exact .number same
      | number also => exact .number (same.trans also)

namespace SceneGlobals

variable {globals : SceneGlobals} {setting : GlobalSetting} {member : Token}

/-! ## Setting -/

theorem value?_apply_other (different : member ≠ setting.member) :
    (globals.apply setting).value? member = globals.value? member := by
  cases setting with
  | timeCodesPerSecond rate =>
      have other : member ≠ "timeCodesPerSecond" := different
      rw [apply]
      split
      · rfl
      · simp only [value?, if_neg other]
  | _ =>
      simp only [GlobalSetting.member] at different
      simp only [apply, value?, if_neg different]

theorem value?_apply_of_holds (holds : globals.holds setting = true) (member : Token) :
    SameAnswer (globals.value? member) ((globals.apply setting).value? member) := by
  cases setting with
  | currentFrame frame =>
      by_cases isFrame : member = "currentFrame"
      · rw [isFrame]
        apply SameAnswer.number
        rw [SameNumber, ← Bool.and_eq_true_iff, ← Bool.or_eq_true_iff]
        exact holds
      · rw [value?_apply_other isFrame]
        exact .refl _
  | timeCodesPerSecond rate =>
      have equal : (globals.timeCodesPerSecond == rate) = true := holds
      rw [apply, if_pos equal]
      exact .refl _
  | _ =>
      have same := eq_of_beq holds
      subst same
      exact .refl _

/-! ## Reading -/

theorem kind_of_value? {value : Value} (isValue : globals.value? member = some value) :
    Sampled.isTypedConstant (.single (kindOf member)) = true ∧
      ∃ content, value = (ValueType.single (kindOf member)).wrap content := by
  unfold value? at isValue
  split_ifs at isValue with isPass isSettings isCamera isFrame isRate isState
  · rw [isPass, ← Option.some.inj isValue]
    exact ⟨rfl, globals.activeRenderPassPrim, rfl⟩
  · rcases Option.map_eq_some_iff.mp isValue with ⟨path, _, rfl⟩
    rw [isSettings]
    exact ⟨rfl, path, rfl⟩
  · rcases Option.map_eq_some_iff.mp isValue with ⟨path, _, rfl⟩
    rw [isCamera]
    exact ⟨rfl, path, rfl⟩
  · rw [isFrame, ← Option.some.inj isValue]
    exact ⟨rfl, globals.currentFrame, rfl⟩
  · rw [isRate, ← Option.some.inj isValue]
    exact ⟨rfl, globals.timeCodesPerSecond, rfl⟩
  · rw [isState, ← Option.some.inj isValue]
    exact ⟨rfl, globals.sceneStateId, rfl⟩

end SceneGlobals

variable {scene : Scene} {object filter : Nat} {member : Token}

theorem DeclaredGlobals.of_withGlobals :
    DeclaredGlobals.of (scene.withGlobals object filter) .root =
      pure ⟨some (publishedGlobals ((Identity.whole object).inner 0) filter)⟩ := by
  cases found : (scene.prim .root).data with
  | none =>
      have shown : ((scene.withGlobals object filter).prim .root).data =
          some (globalsData object filter) := by
        simp only [Scene.withGlobals]
        rw [found]
        rfl
      rw [DeclaredGlobals.of, shown]
      rfl
  | some weaker =>
      have shown : ((scene.withGlobals object filter).prim .root).data =
          some (.overlay none [globalsData object filter, weaker]) := by
        simp only [Scene.withGlobals]
        rw [found]
        rfl
      rw [DeclaredGlobals.of, shown]
      rfl

theorem publishedGlobals_get (identity : Identity) (filter : Nat) (member : Token)
    (around : Surroundings) (store : Store) :
    ((publishedGlobals identity filter).get member around store).1 =
      ((around.globals filter).value? member).map fun value =>
        .sampled (.ofValue (.whole store.next) value) := by
  simp only [publishedGlobals]
  cases (around.globals filter).value? member <;> rfl

theorem DeclaredGlobals.value?_published (identity : Identity) (around : Surroundings)
    (store : Store) :
    (DeclaredGlobals.value? ⟨some (publishedGlobals identity filter)⟩ member around store).1 =
      (around.globals filter).value? member := by
  have got := publishedGlobals_get identity filter member around store
  cases isValue : (around.globals filter).value? member with
  | none =>
      rw [isValue] at got
      simp only [DeclaredGlobals.value?, DeclaredGlobals.read?, bind, got]
      rfl
  | some value =>
      rcases SceneGlobals.kind_of_value? isValue with ⟨isTyped, content, rfl⟩
      have made : Sampled.ofValue (.whole store.next)
          ((ValueType.single (SceneGlobals.kindOf member)).wrap content) =
            .constantOf (.whole store.next) (.single (SceneGlobals.kindOf member)) content :=
        if_pos isTyped
      rw [isValue, Option.map_some, made] at got
      simp only [DeclaredGlobals.value?, DeclaredGlobals.read?, bind, got]
      exact congrArg (Option.map (ValueType.single (SceneGlobals.kindOf member)).wrap)
        (ValueType.extract?_wrap _ content)

end LayeredScene
