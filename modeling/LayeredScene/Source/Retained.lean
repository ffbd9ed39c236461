import LayeredScene.Source.Basic

/-! # Retained data sources

Data sources that hold what they hand out. A retained container lists its members, a retained vector
its elements; a constant has one value at all times and a multisampled source blends authored ones.
Every read yields the same objects, so each has an identity from the start: a `Blueprint` is a data
source that only waits to be told which object it is.
-/

namespace LayeredScene

abbrev Blueprint := Identity → Source

def keptBy (sources : List (Option Source)) : List Nat :=
  sources.flatMap fun source => (source.map Source.keeps).getD []

/-- The member of a name in a list of members: the first of that name. Whether it is present is its
own matter. -/
def memberNamed (members : List (Token × Option Source)) (name : Token) : Option Source :=
  (members.find? (·.1 = name)).bind (·.2)

namespace Container

def retained (identity : Identity) (members : List (Token × Option Source)) : Container where
  mark := ⟨some identity, keptBy (members.map (·.2))⟩
  names := pure (members.map (·.1))
  get name := pure (memberNamed members name)

end Container

namespace Source

def retainedVector (identity : Identity) (elements : List (Option Source)) : Source :=
  .vector ⟨some identity, keptBy elements⟩
    (fun _ store => (elements.length, store))
    (fun position _ store => (elements[position]?.join, store))

/-- A source put at a locator inside of containers that hold nothing else. At the locator of the
whole it stays as it is. -/
def nested (identity : Identity) (leaf : Source) : List Token → Source
  | [] => leaf
  | name :: rest =>
      (Container.retained identity [(name, some (nested (identity.inner 0) leaf rest))]).toSource

end Source

namespace Sampled

def constant (identity : Identity) (value : Value) : Sampled :=
  .untyped ⟨some identity, []⟩ (fun _ => pure value) always

def constantOf (identity : Identity) (type : ValueType) (content : type.Content) : Sampled :=
  .ofType ⟨some identity, []⟩ type (fun _ => pure content) always

def multisampled (identity : Identity) (type : ValueType) (samples : TimeSamples type.Content) :
    Sampled :=
  .ofType ⟨some identity, []⟩ type
    (fun time => Reads.bracketed (samples.sample? time))
    (fun start finish => pure (samples.contributingTimes start finish))

/-- Whether constants of a type are made as ones of that type. Types that no reader asks for by name
are not. -/
def isTypedConstant : ValueType → Bool
  | .any | .dictionary => false
  | .single kind =>
      match kind with
      | .double2 | .double4 | .int2 | .int3 | .int4 => false
      | _ => true
  | .array kind =>
      match kind with
      | .bool | .string | .double3 | .double4 => false
      | _ => true

def ofValue (identity : Identity) (value : Value) : Sampled :=
  match value with
  | .single kind item =>
      if isTypedConstant (.single kind) then constantOf identity (.single kind) item
      else constant identity value
  | .array kind items =>
      if isTypedConstant (.array kind) then constantOf identity (.array kind) items
      else constant identity value
  | _ => constant identity value

theorem ofValue_eq_or (value : Value) :
    (∀ identity, ofValue identity value = constant identity value) ∨
      ∃ (type : ValueType) (content : type.Content), value = type.wrap content ∧
        ∀ identity, ofValue identity value = constantOf identity type content := by
  cases value with
  | single kind item =>
      simp only [ofValue]
      split
      · exact Or.inr ⟨.single kind, item, rfl, fun _ => rfl⟩
      · exact Or.inl fun _ => rfl
  | array kind items =>
      simp only [ofValue]
      split
      · exact Or.inr ⟨.array kind, items, rfl, fun _ => rfl⟩
      · exact Or.inl fun _ => rfl
  | _ => exact Or.inl fun _ => rfl

theorem value_ofValue (identity : Identity) (value : Value) (time : Float32) :
    (ofValue identity value).value time = pure value := by
  rcases ofValue_eq_or value with made | ⟨type, content, rfl, made⟩ <;> rw [made] <;> rfl

theorem times_ofValue (identity : Identity) (value : Value) (start finish : Float32) :
    (ofValue identity value).times start finish = pure none := by
  rcases ofValue_eq_or value with made | ⟨type, content, rfl, made⟩ <;> rw [made] <;> rfl

end Sampled

namespace Blueprint

def constant (value : Value) : Blueprint := fun identity => .sampled (.constant identity value)

def constantOf (type : ValueType) (content : type.Content) : Blueprint := fun identity =>
  .sampled (.constantOf identity type content)

def ofValue (value : Value) : Blueprint := fun identity => .sampled (.ofValue identity value)

def token (token : Token) : Blueprint := constantOf (.single .token) token

def path (path : Path) : Blueprint := constantOf (.single .path) path

def truth (truth : Bool) : Blueprint := constantOf (.single .bool) truth

def multisampled (type : ValueType) (samples : TimeSamples type.Content) : Blueprint :=
  fun identity => .sampled (.multisampled identity type samples)

def parts (identity : Identity) (position : Nat) : List (Option Blueprint) → List (Option Source)
  | [] => []
  | blueprint :: rest =>
      blueprint.map (· (identity.inner position)) :: parts identity (position + 1) rest

def members (members : List (Token × Option Blueprint)) : Blueprint := fun identity =>
  (Container.retained identity
    ((members.map (·.1)).zip (parts identity 0 (members.map (·.2))))).toSource

def present (entries : List (Token × Blueprint)) : Blueprint :=
  members (entries.map fun entry => (entry.1, some entry.2))

def elements (elements : List (Option Blueprint)) : Blueprint := fun identity =>
  .retainedVector identity (parts identity 0 elements)

def nested (locator : Locator) (leaf : Blueprint) : Blueprint := fun identity =>
  .nested identity (leaf (identity.inner 1)) locator.tokens

def make (blueprint : Blueprint) : Reads Source := do
  let number ← Reads.newNumber
  return blueprint (.whole number)

end Blueprint

end LayeredScene
