import LayeredScene.Delegate.Asking
import LayeredScene.Source.Retained

/-! # Lazy constants

Sources that ask their question anew whenever they are read, and have the same value at all times.
-/

namespace LayeredScene

namespace Blueprint

def lazy (read : Reads Value) : Blueprint := fun identity =>
  .sampled (.untyped ⟨some identity, []⟩ (fun _ => read) Sampled.always)

def lazyOf (type : ValueType) (read : Reads type.Content) : Blueprint := fun identity =>
  .sampled (.ofType ⟨some identity, []⟩ type (fun _ => read) Sampled.always)

def found (blueprint : Blueprint) : Reads (Option Source) := some <$> blueprint.make

end Blueprint

def Container.passing (names : List Token) (get : Token → Reads (Option Source)) : Container where
  mark := .passing
  names := pure names
  get := get

def Container.found (container : Container) : Reads (Option Source) :=
  pure (some container.toSource)

/-- The container whose members are all answers to lazy questions by their names. It lists the given
names, but answers to every name. -/
def ServedPrim.answers (prim : ServedPrim) (names : List Token) : Container :=
  .passing names fun name => (Blueprint.lazy (prim.value name)).found

end LayeredScene
