import LayeredScene.Path.Text

/-! # Growing paths

Children and properties are appended to prim paths only. Asking for anything else is a mistake of
the caller: it is reported, and the empty path stands in for the result.
-/

namespace LayeredScene

inductive Misuse
  | child (parent : Path) (name : Token)
  | property (parent : Path) (name : Token)
  /-- storing a prim where only prims belong -/
  | insertion (path : Path)
deriving DecidableEq, Repr

def Misuse.message : Misuse → String
  | .child parent name => "cannot append child '" ++ name ++ "' to <" ++ parent.toText ++ ">"
  | .property parent name => "cannot append property '" ++ name ++ "' to <" ++ parent.toText ++ ">"
  | .insertion path => "cannot insert prim at non-prim path <" ++ path.toText ++ ">"

namespace Path

def child (path : Path) (name : Token) : Except Misuse Path :=
  match path with
  | .absolute prims none =>
      if name.isEmpty then .error (.child path name) else .ok (.absolute (prims ++ [name]) none)
  | _ => .error (.child path name)

def property (path : Path) (name : Token) : Except Misuse Path :=
  match path with
  | .absolute prims none =>
      if prims.isEmpty || name.isEmpty then .error (.property path name)
      else .ok (.absolute prims (some name))
  | _ => .error (.property path name)

def appendChild (path : Path) (name : Token) : Path := (path.child name).toOption.getD .empty

def appendProperty (path : Path) (name : Token) : Path := (path.property name).toOption.getD .empty

end Path

def misuseOf {α : Type} : Except Misuse α → List Misuse
  | .ok _ => []
  | .error misuse => [misuse]

end LayeredScene
