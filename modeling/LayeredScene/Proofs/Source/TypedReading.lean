import LayeredScene.Proofs.TimeSamples.CheckedReading
import LayeredScene.Source.Retained

/-! # Reading values as ones of a type

A source that was made as one of a type answers a reader of the type itself, and of every other
reader the value is taken apart. Either way the reader gets the content that the value has of the
type, or what stands in for it. This is also so where there is no answer: a single sample that is
authored at no number has nothing on either side of any time. -/

namespace LayeredScene.Sampled

open TimeOrder

variable {source : Sampled} {time : Float32}

/-- The sources that hold their values: of a value, made as one of the value's own type, of no known
type or of a given one, and of samples. -/
inductive Retained : Sampled → Prop
  | ofValue (identity : Identity) (value : Value) : Retained (.ofValue identity value)
  | constant (identity : Identity) (value : Value) : Retained (.constant identity value)
  | constantOf (identity : Identity) (type : ValueType) (content : type.Content) :
      Retained (.constantOf identity type content)
  | multisampled (identity : Identity) (type : ValueType) (samples : TimeSamples type.Content) :
      Retained (.multisampled identity type samples)

theorem Retained.read_eq (retained : source.Retained) (type : ValueType) (time : Float32) :
    source.read type time = type.read <$> source.value time := by
  cases retained with
  | constant identity value => exact read_untyped _ _ _ type time
  | constantOf identity own content => exact read_ofType _ own _ _ type time
  | multisampled identity own samples => exact read_ofType _ own _ _ type time
  | ofValue identity value =>
      rcases ofValue_eq_or value with made | ⟨own, content, -, made⟩
      · rw [made]
        exact read_untyped _ _ _ type time
      · rw [made]
        exact read_ofType _ own _ _ type time

/-- A single sample, authored at what is no number. -/
def Misplaced (source : Sampled) : Prop :=
  ∃ (identity : Identity) (type : ValueType) (samples : TimeSamples type.Content) (only : Float32),
    source = multisampled identity type samples ∧ samples.times = [only] ∧ ¬IsNumber only

theorem value_multisampled (identity : Identity) (type : ValueType)
    (samples : TimeSamples type.Content) (time : Float32) :
    (multisampled identity type samples).value time =
      type.wrap <$> Reads.bracketed (samples.sample? time) :=
  rfl

theorem wrap_bracketed_none_ne {type : ValueType} (value : Value) :
    type.wrap <$> Reads.bracketed none ≠ pure value := by
  intro answers
  have unspoilt := congrArg (·.2.unbracketed) (congrFun (congrFun answers .bare) .blank)
  contradiction

theorem sample?_eq_none_iff_of_number {type : ValueType} (samples : TimeSamples type.Content)
    (isNumber : IsNumber time) :
    samples.sample? time = none ↔ ∃ only, samples.times = [only] ∧ ¬IsNumber only := by
  simp only [TimeSamples.sample?_eq_none_iff, unordered_iff, isNumber, not_true, false_or]

theorem Retained.answers_iff (retained : source.Retained) (isNumber : IsNumber time) :
    (∃ value, source.value time = pure value) ↔ ¬source.Misplaced := by
  constructor
  · intro answers misplaced
    rcases answers with ⟨value, answers⟩
    rcases misplaced with ⟨identity, type, samples, only, rfl, isOnly, notNumber⟩
    have nothing := (sample?_eq_none_iff_of_number samples isNumber).mpr ⟨only, isOnly, notNumber⟩
    rw [value_multisampled, nothing] at answers
    exact wrap_bracketed_none_ne value answers
  · intro placed
    cases retained with
    | ofValue identity value => exact ⟨value, value_ofValue identity value time⟩
    | constant identity value => exact ⟨value, rfl⟩
    | constantOf identity type content => exact ⟨type.wrap content, rfl⟩
    | multisampled identity type samples =>
        cases found : samples.sample? time with
        | some content =>
            rw [value_multisampled, found]
            exact ⟨type.wrap content, rfl⟩
        | none =>
            rcases (sample?_eq_none_iff_of_number samples isNumber).mp found with
              ⟨only, isOnly, notNumber⟩
            exact absurd ⟨identity, type, samples, only, rfl, isOnly, notNumber⟩ placed

/-- A source that holds its values is read as one of a type just as its value is: the content of the
type in it, or what stands in for that. At a number there is an answer unless there is only a single
sample, authored at none. A value made into a source is its value at all times. -/
theorem retained_read_as_values :
    (∀ source : Sampled, source.Retained → ∀ time,
      (∀ type, source.read type time = type.read <$> source.value time) ∧
        (IsNumber time → ((∃ value, source.value time = pure value) ↔ ¬source.Misplaced))) ∧
    ∀ (identity : Identity) (value : Value) (time start finish : Float32),
      (ofValue identity value).value time = pure value ∧
        (ofValue identity value).times start finish = pure none := by
  constructor
  · intro source retained time
    exact ⟨fun type => retained.read_eq type time, retained.answers_iff⟩
  · intro identity value time start finish
    exact ⟨value_ofValue identity value time, times_ofValue identity value start finish⟩

def rising : Sampled :=
  multisampled (.whole 0) .any (.ofParts [-1, 1] [.single .float 1, .single .float 3])

theorem retained_read_as_values_rising :
    rising.Retained ∧ IsNumber 1 ∧ rising.value 1 = pure (.single .float 3) ∧
      rising.read .any 1 = pure (.single .float 3) ∧
      rising.read (.single .float) 1 = pure 3 ∧ rising.read (.single .double) 1 = pure 0 ∧
      ¬rising.Misplaced := by
  have retained : rising.Retained := .multisampled _ _ _
  have late : (1 : Float32) ≤ 1 := by decide +kernel
  have isNumber : IsNumber 1 := (le_iff.mp late).1
  have value : rising.value 1 = pure (.single .float 3) := by
    have early : ¬(1 : Float32) ≤ -1 := by decide +kernel
    have isLast : (TimeSamples.ofParts [-1, 1] [.single .float 1, .single .float 3] :
        TimeSamples Value).sample? 1 = some (.single .float 3) := by
      simp [TimeSamples.sample?, TimeSamples.ofParts, early, late]
    exact congrArg (fun found => ValueType.any.wrap <$> Reads.bracketed found) isLast
  rcases retained_read_as_values.1 rising retained 1 with ⟨read, answers⟩
  refine ⟨retained, isNumber, value, ?_, ?_, ?_, (answers isNumber).mp ⟨_, value⟩⟩
  · rw [read, value]
    rfl
  · rw [read, value]
    rfl
  · rw [read, value]
    rfl

end LayeredScene.Sampled
