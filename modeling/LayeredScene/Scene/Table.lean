import LayeredScene.Path.Growth
import LayeredScene.Scene.Prim

/-! # Prim tables

A table stores prims in the order of their paths, each with its children in the order they came in.
Storing a prim also stores blank prims for the ones above it that are not there yet. The root is
always there. A subtree is an unbroken run of the table, so it is removed as one.
-/

namespace LayeredScene

structure TableEntry where
  prim : Prim
  children : List Path

structure PrimTable where
  entries : List (Path × TableEntry)

namespace PrimTable

def empty : PrimTable := ⟨[(.root, ⟨.blank, []⟩)]⟩

instance : Inhabited PrimTable := ⟨empty⟩

def stored? (table : PrimTable) (path : Path) : Option TableEntry :=
  (table.entries.find? (·.1 = path)).map (·.2)

def prim (table : PrimTable) (path : Path) : Prim :=
  ((table.stored? path).map (·.prim)).getD .blank

def children (table : PrimTable) (path : Path) : List Path :=
  ((table.stored? path).map (·.children)).getD []

def contains (table : PrimTable) (path : Path) : Bool := (table.stored? path).isSome

def change (table : PrimTable) (path : Path) (edit : TableEntry → TableEntry) : PrimTable :=
  ⟨table.entries.map fun stored =>
    if stored.1 = path then (stored.1, edit stored.2) else stored⟩

def before (table : PrimTable) (path : Path) : List (Path × TableEntry) :=
  table.entries.takeWhile fun stored => !path.atOrBefore stored.1

def startingAt (table : PrimTable) (path : Path) : List (Path × TableEntry) :=
  table.entries.dropWhile fun stored => !path.atOrBefore stored.1

def place (table : PrimTable) (path : Path) (entry : TableEntry) : PrimTable :=
  ⟨table.before path ++ (path, entry) :: table.startingAt path⟩

/-- Store a blank prim at a path where there is none yet, as the last child of the one above it. -/
def grow (table : PrimTable) (path : Path) : PrimTable :=
  (table.change path.parent fun entry =>
    { entry with children := entry.children ++ [path] }).place path ⟨.blank, []⟩

def ensure (table : PrimTable) (path : Path) : PrimTable :=
  if table.contains path || path.isEmpty then table
  else (table.ensure path.parent).grow path
termination_by path.height
decreasing_by
  exact Path.height_parent_lt (by simp_all)

/-- Store a prim at a path, over the one that is there; its children stay. Prims belong at prim
paths only. -/
def insert (table : PrimTable) (path : Path) (prim : Prim) : Except Misuse PrimTable :=
  if path.isPrim then
    .ok ((table.ensure path).change path fun entry => { entry with prim := prim })
  else .error (.insertion path)

def inserted (table : PrimTable) (path : Path) (prim : Prim) : PrimTable :=
  (table.insert path prim).toOption.getD table

/-- Remove a path with all that lies under it, which is the run of the table that starts there. Of
the root, everything goes but the root itself, and its prim is blank then. Also says whether any
path is gone. -/
def removeSubtree (table : PrimTable) (path : Path) : PrimTable × Bool :=
  if path.isRoot then (empty, 1 < table.entries.length)
  else if table.contains path then
    let kept : PrimTable :=
      ⟨table.before path ++ (table.startingAt path).dropWhile (·.1.liesUnder path)⟩
    (kept.change path.parent fun entry =>
      { entry with children := entry.children.filter (· ≠ path) }, true)
  else (table, false)

def depth (table : PrimTable) : Nat :=
  table.entries.foldl (fun most stored => max most stored.1.elementCount) 0

def scene (table : PrimTable) : Scene := ⟨table.prim, table.children, table.depth⟩

end PrimTable

end LayeredScene
