import LayeredScene.Value.Type
import Mathlib.Logic.Basic

/-! # Blending values

Values blend without their types being known ahead of time, and the contents of one type blend by
themselves. Both come to the same: values of one type blend as their contents do, and where the two
have no type in common the first one stays.
-/

namespace LayeredScene

namespace ArrayKind

theorem blend_of_not_blends {kind : ArrayKind} (still : kind.item.blends = false)
    (start target : List kind.item.Content) (part : Float32) :
    kind.blend start target part = start := by
  have held : (kind.item.blend · · part) = Function.curry Prod.fst := by
    funext first second
    exact Kind.blend_of_not_blends still first second part
  rw [blend]
  split
  · rename_i sameLength
    rw [held, ← List.map_zip_eq_zipWith, List.map_fst_zip (Nat.le_of_eq sameLength)]
  · rfl

end ArrayKind

namespace ValueType

variable {type : ValueType}

theorem typeName_wrap (notAny : type ≠ .any) (content : type.Content) :
    (type.wrap content).typeName = type.name := by
  cases type with
  | any => contradiction
  | _ => rfl

def stays : ValueType → Bool
  | .any => false
  | .single kind => !kind.blends
  | .array kind => !kind.item.blends
  | .dictionary => true

variable (first second : type.Content) (part : Float32)

theorem blend_of_stays (stays : type.stays = true) : type.blend first second part = first := by
  cases type with
  | any => contradiction
  | dictionary => rfl
  | single kind =>
      rw [ValueType.stays, Bool.not_eq_true'] at stays
      exact Kind.blend_of_not_blends stays first second part
  | array kind =>
      rw [ValueType.stays, Bool.not_eq_true'] at stays
      exact ArrayKind.blend_of_not_blends stays first second part

theorem arraySize_wrap_blend (notAny : type ≠ .any) :
    (type.wrap (type.blend first second part)).arraySize = (type.wrap first).arraySize := by
  cases type with
  | any => contradiction
  | array kind => exact kind.length_blend first second part
  | _ => rfl

theorem blend_wrap (notAny : type ≠ .any) :
    (type.wrap first).blend (type.wrap second) part = type.wrap (type.blend first second part) := by
  cases type with
  | any => contradiction
  | dictionary => rfl
  | single kind =>
      rw [wrap, wrap, wrap, blend, Value.blend, dif_pos rfl]
      split
      · rfl
      · rename_i still
        rw [Kind.blend_of_not_blends (Bool.eq_false_iff.mpr still)]
  | array kind =>
      rw [wrap, wrap, wrap, blend, Value.blend, dif_pos rfl]
      split
      · rfl
      · rename_i still
        rw [ArrayKind.blend_of_not_blends (Bool.eq_false_iff.mpr still)]

end ValueType

namespace Value

variable {start target : Value} {part : Float32}

/-- Values of which no type but any value's has contents of both. -/
def Apart (start target : Value) : Prop :=
  ∀ type : ValueType, type ≠ .any → type.extract? start = none ∨ type.extract? target = none

theorem blend_of_apart (apart : Apart start target) (part : Float32) :
    start.blend target part = start := by
  cases start with
  | single kind item =>
      cases target with
      | single otherKind other =>
          by_cases same : otherKind = kind
          · subst same
            have either := apart (.single otherKind) fun isAny => by cases isAny
            simp [ValueType.extract?] at either
          · rw [blend, dif_neg same]
      | _ => rfl
  | array kind items =>
      cases target with
      | array otherKind others =>
          by_cases same : otherKind = kind
          · subst same
            have either := apart (.array otherKind) fun isAny => by cases isAny
            simp [ValueType.extract?] at either
          · rw [blend, dif_neg same]
      | _ => rfl
  | _ => rfl

theorem apart_or_wrapped (start target : Value) : Apart start target ∨
    ∃ (type : ValueType) (first second : type.Content), type ≠ .any ∧
      start = type.wrap first ∧ target = type.wrap second := by
  by_cases apart : Apart start target
  · exact Or.inl apart
  · simp only [Apart, not_forall, not_or, Option.ne_none_iff_exists'] at apart
    rcases apart with ⟨type, notAny, ⟨first, isFirst⟩, second, isSecond⟩
    rw [ValueType.extract?_eq_some_iff] at isFirst isSecond
    exact Or.inr ⟨type, first, second, notAny, isFirst, isSecond⟩

theorem typeName_blend (start target : Value) (part : Float32) :
    (start.blend target part).typeName = start.typeName := by
  rcases apart_or_wrapped start target with apart | ⟨type, first, second, notAny, rfl, rfl⟩
  · rw [blend_of_apart apart]
  · rw [ValueType.blend_wrap first second part notAny, ValueType.typeName_wrap notAny,
      ValueType.typeName_wrap notAny]

theorem arraySize_blend (start target : Value) (part : Float32) :
    (start.blend target part).arraySize = start.arraySize := by
  rcases apart_or_wrapped start target with apart | ⟨type, first, second, notAny, rfl, rfl⟩
  · rw [blend_of_apart apart]
  · rw [ValueType.blend_wrap first second part notAny,
      ValueType.arraySize_wrap_blend first second part notAny]

/-- Values blend to one of the same name and the same number of items. Two of one type blend as
their contents do: contents that do not blend stay what they are, and arrays go item by item if they
are of one length and otherwise stay. Values with no type in common leave the first one as it is. -/
theorem blend_as_contents (start target : Value) (part : Float32) :
    (start.blend target part).typeName = start.typeName ∧
      (start.blend target part).arraySize = start.arraySize ∧
      (∀ (type : ValueType) (first second : type.Content), type ≠ .any →
        type.extract? start = some first → type.extract? target = some second →
        start.blend target part = type.wrap (type.blend first second part) ∧
          (type.stays = true → type.blend first second part = first)) ∧
      (∀ (kind : ArrayKind) (items others : List kind.item.Content),
        (ValueType.array kind).blend items others part =
          if items.length = others.length then items.zipWith (kind.item.blend · · part) others
          else items) ∧
      (Apart start target → start.blend target part = start) := by
  refine ⟨typeName_blend start target part, arraySize_blend start target part, ?_, ?_, ?_⟩
  · intro type first second notAny isFirst isSecond
    rw [ValueType.extract?_eq_some_iff] at isFirst isSecond
    constructor
    · rw [isFirst, isSecond]
      exact ValueType.blend_wrap first second part notAny
    · exact ValueType.blend_of_stays first second part
  · intro kind items others
    rfl
  · intro apart
    exact blend_of_apart apart part

theorem blend_as_contents_pairs :
    let pair : Value := .array .float [0, 1]
    pair.blend (.array .float [2, 4]) 0.5 =
        .array .float [Kind.mix 0 2 0.5, Kind.mix 1 4 0.5] ∧
      pair.blend (.array .float [2]) 0.5 = pair ∧
      (Value.single .int 1).blend (.single .int 5) 0.5 = .single .int 1 ∧
      Apart (.single .float 1) (.single .double 5) ∧
      (Value.single .float 1).blend (.single .double 5) 0.5 = .single .float 1 := by
  intro pair
  have apart : Apart (.single .float 1) (.single .double 5) := by
    intro type notAny
    cases type with
    | single kind =>
        cases kind with
        | float => exact Or.inr rfl
        | _ => exact Or.inl rfl
    | any => contradiction
    | _ => exact Or.inl rfl
  have together := (blend_as_contents pair (.array .float [2, 4]) 0.5).2.2.1
    (.array .float) [0, 1] [2, 4] nofun rfl rfl
  have uneven := (blend_as_contents pair (.array .float [2]) 0.5).2.2.1
    (.array .float) [0, 1] [2] nofun rfl rfl
  have whole := (blend_as_contents (.single .int 1) (.single .int 5) 0.5).2.2.1
    (.single .int) 1 5 nofun rfl rfl
  refine ⟨together.1, uneven.1, ?_, apart, ?_⟩
  · rw [whole.1, whole.2 rfl]
    rfl
  · exact (blend_as_contents (.single .float 1) (.single .double 5) 0.5).2.2.2.2 apart

end Value

end LayeredScene
