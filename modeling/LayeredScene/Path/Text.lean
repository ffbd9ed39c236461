import LayeredScene.ParseError
import LayeredScene.Path.Basic
import LayeredScene.Text.Pieces

/-! # Path text

A path is written as its prim names, each after a slash, and its property after a dot. Reading cuts
at the last dot first, so a dot in a prim name is a flaw of the prims and never moves the border.
-/

namespace LayeredScene.Path

def toText : Path → String
  | .empty => ""
  | .absolute [] _ => "/"
  | .absolute prims property =>
      prims.foldl (fun text prim => text ++ "/" ++ prim) "" ++
        (match property with
          | none => ""
          | some name => "." ++ name)

instance : ToString Path := ⟨toText⟩

def primOfPiece (piece : List Char) : Except PathFlaw Token :=
  if piece.isEmpty then .error .emptyElement
  else if piece.contains '.' then .error .dotInPrimName
  else .ok (String.ofList piece)

def primsOfText (text : List Char) : Except PathFlaw (List Token) :=
  if text.isEmpty then .ok [] else (Text.pieces '/' text).mapM primOfPiece

def ofBody (body : List Char) : Except PathFlaw Path :=
  match Text.cutAtLast '.' body with
  | none => do return .absolute (← primsOfText body) none
  | some (before, after) =>
      if after.isEmpty || after.contains '/' then .error .malformedProperty
      else do
        let prims ← primsOfText before
        if prims.isEmpty then throw .propertyOnRoot
        return .absolute prims (some (String.ofList after))

def ofText (text : List Char) : Except PathFlaw Path :=
  match text with
  | [] => .ok .empty
  | '/' :: [] => .ok .root
  | '/' :: body => ofBody body
  | _ => .error .relative

def parse (text : String) : Except ParseError Path :=
  (ofText text.toList).mapError (.path text)

def describe (path : Path) : String := "<" ++ path.toText ++ ">"

end LayeredScene.Path
