import LayeredScene.Source.Reading

/-! # Data sources

The data of a prim is a tree that is read lazily. A container has named members, a vector has
numbered elements, a sampled source has a value at every time, and a block stands for "nothing here,
and nothing from anyone weaker either". That a member is missing is not a failure.

Asking a container for one member twice need not yield the same object. Objects that can be met
twice carry an identity; an object without one is new whenever it is met.
-/

namespace LayeredScene

/-- What tells one object from another: the number of the object it was made with, and its place in
there. -/
structure Identity where
  object : Nat
  part : List Nat
deriving DecidableEq, Repr

namespace Identity

def whole (object : Nat) : Identity := ⟨object, []⟩

def inner (identity : Identity) (position : Nat) : Identity :=
  { identity with part := position :: identity.part }

def frameRateDependency : Identity := whole 0

end Identity

/-- What a data source is apart from what it holds: who it is, and the scene indices that live at
least as long. -/
structure Mark where
  identity : Option Identity
  keeps : List Nat

def Mark.passing : Mark := ⟨none, []⟩

structure TypedView where
  type : ValueType
  value : Float32 → Reads type.Content

structure Sampled where
  mark : Mark
  /-- the value at a time -/
  value : Float32 → Reads Value
  /-- the authored times that the values between two times depend on; `none` if the value is the
  same at all times -/
  times : Float32 → Float32 → Reads (Option (List Float32))
  /-- the source as one of a known type, if it was made as one -/
  typed : Option TypedView

inductive Source
  | container (mark : Mark)
      (names : Surroundings → Store → List Token × Store)
      (get : Token → Surroundings → Store → Option Source × Store)
  | vector (mark : Mark)
      (size : Surroundings → Store → Nat × Store)
      (element : Nat → Surroundings → Store → Option Source × Store)
  | sampled (content : Sampled)
  | block

structure Container where
  mark : Mark
  /-- the names of the members; not all of them have to be present, and others may be -/
  names : Reads (List Token)
  /-- the member of a name -/
  get : Token → Reads (Option Source)

def Container.toSource (container : Container) : Source :=
  .container container.mark container.names container.get

namespace Source

def container? : Source → Option Container
  | .container mark names get => some ⟨mark, names, get⟩
  | _ => none

def sampled? : Source → Option Sampled
  | .sampled content => some content
  | _ => none

def isBlock : Source → Bool
  | .block => true
  | _ => false

def kind : Source → String
  | .container .. => "container"
  | .vector .. => "vector"
  | .sampled _ => "sampled"
  | .block => "block"

def mark? : Source → Option Mark
  | .container mark .. => some mark
  | .vector mark .. => some mark
  | .sampled content => some content.mark
  | .block => none

def keeps (source : Source) : List Nat := (source.mark?.map (·.keeps)).getD []

/-- Whether two data sources are one object. All blocks are. -/
def same : Source → Source → Bool
  | .block, .block => true
  | .container mark .., .container other .. =>
      mark.identity.isSome && mark.identity = other.identity
  | .vector mark .., .vector other .. => mark.identity.isSome && mark.identity = other.identity
  | .sampled content, .sampled other =>
      content.mark.identity.isSome && content.mark.identity = other.mark.identity
  | _, _ => false

theorem container?_toSource (container : Container) :
    container.toSource.container? = some container := rfl

end Source

namespace Sampled

/-- The value as one of a type. A source made as one of the type answers itself; of any other the
value is read, and the type's default stands in for a value of another type. -/
def read (sampled : Sampled) (type : ValueType) (time : Float32) : Reads type.Content :=
  match sampled.typed with
  | some view =>
      if same : view.type = type then same ▸ view.value time else type.read <$> sampled.value time
  | none => type.read <$> sampled.value time

def cast? (sampled : Sampled) (type : ValueType) : Option (Float32 → Reads type.Content) :=
  match sampled.typed with
  | some view => if same : view.type = type then some (same ▸ view.value) else none
  | none => none

def ofType (mark : Mark) (type : ValueType) (value : Float32 → Reads type.Content)
    (times : Float32 → Float32 → Reads (Option (List Float32))) : Sampled where
  mark := mark
  value time := type.wrap <$> value time
  times := times
  typed := some ⟨type, value⟩

def untyped (mark : Mark) (value : Float32 → Reads Value)
    (times : Float32 → Float32 → Reads (Option (List Float32))) : Sampled where
  mark := mark
  value := value
  times := times
  typed := none

def always : Float32 → Float32 → Reads (Option (List Float32)) := fun _ _ => pure none

theorem read_ofType (mark : Mark) (type : ValueType) (value : Float32 → Reads type.Content)
    (times : Float32 → Float32 → Reads (Option (List Float32))) (asked : ValueType)
    (time : Float32) :
    (ofType mark type value times).read asked time =
      asked.read <$> (ofType mark type value times).value time := by
  rw [read, ofType]
  dsimp only
  by_cases same : type = asked
  · subst same
    have unwraps : type.read ∘ type.wrap = id := funext type.read_wrap
    rw [dif_pos rfl, ← comp_map, unwraps, id_map]
  · rw [dif_neg same]

theorem read_untyped (mark : Mark) (value : Float32 → Reads Value)
    (times : Float32 → Float32 → Reads (Option (List Float32))) (asked : ValueType)
    (time : Float32) :
    (untyped mark value times).read asked time =
      asked.read <$> (untyped mark value times).value time :=
  rfl

end Sampled

end LayeredScene
