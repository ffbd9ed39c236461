import LayeredScene.Value.Kind

/-! # Scene values

What a sampled data source yields is a value: nothing, an item, an array, a dictionary, or something
foreign that the library passes along without looking inside. Foreign values are the few compound
answers of scene delegates, which the containers built for them take apart again.
-/

namespace LayeredScene

structure MaterialNodeOf (V : Type) where
  path : Path
  identifier : Token
  parameters : List (String × V)

structure RenderVarOf (V : Type) where
  path : Path
  dataType : Token
  sourceName : String
  sourceType : Token
  settings : List (String × V)

structure RenderProductOf (V : Type) where
  path : Path
  type : Token
  name : Token
  resolution : Vector Int32 2
  vars : List (RenderVarOf V)
  camera : Path
  pixelAspectRatio : Float32
  conformPolicy : Token
  apertureSize : Vector Float32 2
  dataWindow : Vector Float32 4
  disableMotionBlur : Bool
  disableDepthOfField : Bool
  settings : List (String × V)

inductive ForeignOf (V : Type)
  /-- the near and far end of what a camera shows -/
  | range (near far : Float32)
  | materialNode (node : MaterialNodeOf V)
  | renderProducts (products : List (RenderProductOf V))
  /-- the delegate that serves a prim, by its number -/
  | delegate (number : Nat)

inductive Value
  | empty
  | single (kind : Kind) (item : kind.Content)
  | array (kind : ArrayKind) (items : List kind.item.Content)
  | dictionary (entries : List (String × Value))
  | foreign (content : ForeignOf Value)

instance : Inhabited Value := ⟨.empty⟩

/-- The entries of a dictionary, ordered by key. -/
abbrev Dictionary := List (String × Value)

abbrev MaterialNode := MaterialNodeOf Value

abbrev RenderVar := RenderVarOf Value

abbrev RenderProduct := RenderProductOf Value

def ForeignOf.typeName {V : Type} : ForeignOf V → String
  | .range .. => "scene_index::util::math::Range1f"
  | .materialNode _ => "scene_index::legacy::delegate::MaterialNode"
  | .renderProducts _ => "alloc::vec::Vec<scene_index::legacy::delegate::RenderProduct>"
  | .delegate _ => "alloc::sync::Arc<dyn scene_index::legacy::delegate::SceneDelegate>"

namespace Value

def isEmpty : Value → Bool
  | .empty => true
  | _ => false

def isArray : Value → Bool
  | .array .. => true
  | _ => false

def arraySize : Value → Nat
  | .array _ items => items.length
  | _ => 0

def typeName : Value → String
  | .empty => "empty"
  | .single kind _ => kind.name
  | .array kind _ => kind.name
  | .dictionary _ => "dictionary"
  | .foreign content => content.typeName

mutual

def toJson : Value → JsonDocument
  | .empty => .null
  | .single kind item => kind.toJson item
  | .array kind items => kind.toJson items
  | .dictionary entries => .ofMembers (entriesToJson entries)
  | .foreign content => .text ("<" ++ content.typeName ++ ">")

def entriesToJson : List (String × Value) → List (String × JsonDocument)
  | [] => []
  | (key, value) :: rest => (key, value.toJson) :: entriesToJson rest

end

/-- A value as text: names, paths and locators bare, what has no text of its own in angle brackets,
everything else as JSON. -/
def display : Value → String
  | .empty => "<empty>"
  | .single .token item => item
  | .single .string item => item
  | .single .path item => item.toText
  | .single .locator item => item.toText
  | .foreign content => "<" ++ content.typeName ++ ">"
  | value => value.toJson.write

/-- Whether the two values compared were made apart or one was taken from the other. Values taken
from one another share their arrays and foreign contents. -/
inductive Sharing
  | apart
  | shared
deriving DecidableEq, Repr

mutual

/-- Equality of values. A shared array is equal without a look at its items, and foreign contents
are equal only if shared. -/
def equal (sharing : Sharing) : Value → Value → Bool
  | .empty, .empty => true
  | .single kind item, .single otherKind otherItem =>
      if same : otherKind = kind then kind.equal item (same ▸ otherItem) else false
  | .array kind items, .array otherKind otherItems =>
      if same : otherKind = kind then
        sharing = .shared || kind.equal items (same ▸ otherItems)
      else false
  | .dictionary entries, .dictionary otherEntries => entriesEqual sharing entries otherEntries
  | .foreign _, .foreign _ => sharing = .shared
  | _, _ => false

def entriesEqual (sharing : Sharing) : List (String × Value) → List (String × Value) → Bool
  | [], [] => true
  | (key, value) :: rest, (otherKey, otherValue) :: others =>
      key = otherKey && equal sharing value otherValue && entriesEqual sharing rest others
  | _, _ => false

end

def equals (value other : Value) : Bool := equal .apart value other

def equalsCopy (value : Value) : Bool := equal .shared value value

/-- The value part of the way from one to another. Values of one type whose items blend do so;
otherwise the first value stays. -/
def blend (start target : Value) (part : Float32) : Value :=
  match start, target with
  | .single kind item, .single otherKind otherItem =>
      if same : otherKind = kind then
        if kind.blends then .single kind (kind.blend item (same ▸ otherItem) part) else start
      else start
  | .array kind items, .array otherKind otherItems =>
      if same : otherKind = kind then
        if kind.item.blends then .array kind (kind.blend items (same ▸ otherItems) part) else start
      else start
  | _, _ => start

end Value

end LayeredScene
