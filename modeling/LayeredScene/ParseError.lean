/-! # Text that names nothing

Reading is total once a path or locator exists; only turning text into one can fail. A failure
keeps the whole text that was read and, for paths, the first flaw found in it.
-/

namespace LayeredScene

inductive PathFlaw
  /-- the text does not start at the root -/
  | relative
  /-- nothing, or a further `/`, after the last dot -/
  | malformedProperty
  /-- two slashes with nothing between them, or a slash at the end -/
  | emptyElement
  /-- a dot before the one that starts the property -/
  | dotInPrimName
  /-- a property with no prim to belong to -/
  | propertyOnRoot
deriving DecidableEq, Repr

def PathFlaw.reason : PathFlaw → String
  | .relative => "path must be absolute"
  | .malformedProperty => "malformed property name"
  | .emptyElement => "empty element"
  | .dotInPrimName => "'.' in prim name"
  | .propertyOnRoot => "property on absolute root"

inductive ParseError
  | path (text : String) (flaw : PathFlaw)
  | locator (text : String)
deriving DecidableEq, Repr

def ParseError.message : ParseError → String
  | .path text flaw => "Invalid path '" ++ text ++ "': " ++ flaw.reason
  | .locator text => "Invalid locator '" ++ text ++ "'"

end LayeredScene
