import LayeredScene.Value.Basic

/-! # Types of values

Data sources and their readers agree on a type of value ahead of time. A type is one of the kinds of
item or array, dictionaries, or any value whatsoever. `extract?` takes the content of a type out of
a value and `wrap` puts it back.
-/

namespace LayeredScene

inductive ValueType
  /-- any value, taken as it is -/
  | any
  | single (kind : Kind)
  | array (kind : ArrayKind)
  | dictionary
deriving DecidableEq, Repr

namespace ValueType

/-- What a reader gets. -/
@[reducible] def Content : ValueType → Type
  | .any => Value
  | .single kind => kind.Content
  | .array kind => List kind.item.Content
  | .dictionary => Dictionary

def name : ValueType → String
  | .any => "value"
  | .single kind => kind.name
  | .array kind => kind.name
  | .dictionary => "dictionary"

def all : List ValueType :=
  .any :: Kind.all.map .single ++ ArrayKind.all.map .array ++ [.dictionary]

def named? (name : String) : Option ValueType := all.find? (·.name = name)

def default : (type : ValueType) → type.Content
  | .any => .empty
  | .single kind => kind.default
  | .array _ => []
  | .dictionary => []

instance (type : ValueType) : Inhabited type.Content := ⟨type.default⟩

def wrap : (type : ValueType) → type.Content → Value
  | .any, content => content
  | .single kind, content => .single kind content
  | .array kind, content => .array kind content
  | .dictionary, content => .dictionary content

def extract? : (type : ValueType) → Value → Option type.Content
  | .any, value => some value
  | .single kind, .single otherKind item =>
      if same : otherKind = kind then some (same ▸ item) else none
  | .array kind, .array otherKind items =>
      if same : otherKind = kind then some (same ▸ items) else none
  | .dictionary, .dictionary entries => some entries
  | _, _ => none

def read (type : ValueType) (value : Value) : type.Content :=
  (type.extract? value).getD type.default

def blend : (type : ValueType) → type.Content → type.Content → Float32 → type.Content
  | .any, start, target, part => Value.blend start target part
  | .single kind, start, target, part => kind.blend start target part
  | .array kind, start, target, part => kind.blend start target part
  | .dictionary, start, _, _ => start

theorem extract?_wrap (type : ValueType) (content : type.Content) :
    type.extract? (type.wrap content) = some content := by
  cases type <;> simp [extract?, wrap]

theorem extract?_eq_some_iff {type : ValueType} {value : Value} {content : type.Content} :
    type.extract? value = some content ↔ value = type.wrap content := by
  cases type with
  | any => simp [extract?, wrap]
  | dictionary => cases value <;> simp [extract?, wrap]
  | single kind =>
      cases value with
      | single otherKind item =>
          by_cases same : otherKind = kind
          · subst same
            simp [extract?, wrap]
          · simp [extract?, wrap, same]
      | _ => simp [extract?, wrap]
  | array kind =>
      cases value with
      | array otherKind items =>
          by_cases same : otherKind = kind
          · subst same
            simp [extract?, wrap]
          · simp [extract?, wrap, same]
      | _ => simp [extract?, wrap]

theorem read_wrap (type : ValueType) (content : type.Content) :
    type.read (type.wrap content) = content := by
  rw [read, type.extract?_wrap, Option.getD_some]

end ValueType

def Value.type? : Value → Option ValueType
  | .single kind _ => some (.single kind)
  | .array kind _ => some (.array kind)
  | .dictionary _ => some .dictionary
  | .empty | .foreign _ => none

def Value.blendTyped? (start target : Value) (part : Float32) : Option Value :=
  start.type?.bind fun type =>
    match type.extract? start, type.extract? target with
    | some first, some second => some (type.wrap (type.blend first second part))
    | _, _ => none

namespace Value

def path? (value : Value) : Option Path := (ValueType.single .path).extract? value

def token? (value : Value) : Option Token := (ValueType.single .token).extract? value

def vectors? (value : Value) : Option (List (Vector Float32 3)) :=
  (ValueType.array .float3).extract? value

end Value

end LayeredScene
