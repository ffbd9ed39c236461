import LayeredScene.Scene.Prim

/-! # Cursors

A cursor goes down a scene one path after the other: first a path, then what lies below its
children, child by child. The children of a path are only looked up when the path after it is asked
for. Until then, whoever was given a path can say that what lies below it is to be left out.
-/

namespace LayeredScene

/-- The paths that wait to be met, the next one first, and the path that was met last, unless what
lies below it is left out. -/
structure Cursor where
  waiting : List Path
  last : Option Path
deriving DecidableEq, Repr

namespace Cursor

def startingAt (top : Path) : Cursor := ⟨[top], none⟩

def skipping (cursor : Cursor) : Cursor := { cursor with last := none }

/-- What is to be met: the children of the path met last come before all that waits already. -/
def ahead (scene : Scene) (cursor : Cursor) : List Path :=
  (cursor.last.map scene.children).getD [] ++ cursor.waiting

def next? (scene : Scene) (cursor : Cursor) : Option (Path × Cursor) :=
  match cursor.ahead scene with
  | [] => none
  | path :: waiting => some (path, ⟨waiting, some path⟩)

end Cursor

end LayeredScene
