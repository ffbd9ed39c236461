import LayeredScene.Source.Retained

/-! # Overlays

Several containers seen as one, the strongest first: for every name, the first container with an
opinion wins. A block is an opinion that reads as absence. Members are not merged: one that is a
container in two of the overlaid ones is taken whole from the stronger.
-/

namespace LayeredScene.Container

def uniteNames (seen : List Token) : List Token → List Token
  | [] => seen
  | name :: rest => uniteNames (if seen.contains name then seen else seen ++ [name]) rest

def namesOfAll (seen : List Token) : List Container → Reads (List Token)
  | [] => pure seen
  | input :: rest => do namesOfAll (uniteNames seen (← input.names)) rest

/-- The first present member of a name, unless it is a block. -/
def strongest (name : Token) : List Container → Reads (Option Source)
  | [] => pure none
  | input :: rest => do
      match ← input.get name with
      | some .block => return none
      | some source => return some source
      | none => strongest name rest

/-- Several containers as one, the strongest first. -/
def overlay (identity : Option Identity) (inputs : List Container) : Container where
  mark := ⟨identity, inputs.flatMap (·.mark.keeps)⟩
  names := namesOfAll [] inputs
  get name := strongest name inputs

def overlayPresent (identity : Option Identity) : Option Container → Option Container →
    Option Container
  | some strong, some weak => some (overlay identity [strong, weak])
  | some strong, none => some strong
  | none, weak => weak

def overlayAll : List Container → Option Container
  | [] => none
  | [single] => some single
  | inputs => some (overlay none inputs)

end LayeredScene.Container

namespace LayeredScene.Blueprint

def overlay (inputs : List (Option Blueprint)) : Blueprint := fun identity =>
  (Container.overlay (some identity)
    ((parts identity 0 inputs).filterMap (·.bind Source.container?))).toSource

def overlayPresent : Option Blueprint → Option Blueprint → Option Blueprint
  | some strong, some weak => some (overlay [some strong, some weak])
  | some strong, none => some strong
  | none, weak => weak

def isContainer (blueprint : Blueprint) : Bool := (blueprint (.whole 0)).container?.isSome

end LayeredScene.Blueprint
