import LayeredScene.Token

/-! # Scene paths

A path names the absolute root `/`, a prim below it (`/World/mesh`), a property of a prim
(`/World/mesh.points`), or nothing: the empty path stands for "no path".

Paths order element by element, prims first and the property last. A prim therefore comes before
everything below it, and what lies below it forms one unbroken run of the order.
-/

namespace LayeredScene

inductive Path
  /-- no place -/
  | empty
  /-- the prim reached by a chain of names from the root, or a property of it -/
  | absolute (prims : List Token) (property : Option Token)
deriving DecidableEq, Repr, Inhabited

namespace Path

def root : Path := .absolute [] none

def isEmpty : Path → Bool
  | .empty => true
  | .absolute .. => false

def isRoot : Path → Bool
  | .absolute [] none => true
  | _ => false

/-- Whether a path names a prim; the root counts as one. -/
def isPrim : Path → Bool
  | .absolute _ none => true
  | _ => false

def isProperty : Path → Bool
  | .absolute _ (some _) => true
  | _ => false

def prims : Path → List Token
  | .empty => []
  | .absolute prims _ => prims

def elementCount : Path → Nat
  | .empty => 0
  | .absolute prims none => prims.length
  | .absolute prims (some _) => prims.length + 1

def name : Path → Token
  | .empty => ""
  | .absolute _ (some property) => property
  | .absolute prims none => prims.getLast?.getD ""

/-- One step up: from a property to its prim, from a prim to the prim above it. Above the root and
above the empty path there is only the empty path. -/
def parent : Path → Path
  | .empty => .empty
  | .absolute prims (some _) => .absolute prims none
  | .absolute [] none => .empty
  | .absolute (first :: rest) none => .absolute (first :: rest).dropLast none

def height : Path → Nat
  | .empty => 0
  | path => path.elementCount + 1

def primPath : Path → Path
  | .absolute prims (some _) => .absolute prims none
  | path => path

/-- Whether a path is `above` or lies below it. Only itself lies under a property, and nothing lies
under the empty path, which lies under nothing. -/
def liesUnder : Path → Path → Bool
  | .absolute prims property, .absolute above (some name) =>
      decide (prims = above ∧ property = some name)
  | .absolute prims _, .absolute above none => above.isPrefixOf prims
  | _, _ => false

/-- The empty path first, then prim names one by one; at the same prim, the prim itself before its
properties, which order by name. -/
protected def compare : Path → Path → Ordering
  | .empty, .empty => .eq
  | .empty, .absolute .. => .lt
  | .absolute .., .empty => .gt
  | .absolute prims property, .absolute otherPrims otherProperty =>
      (compare prims otherPrims).then (compare property otherProperty)

instance : Ord Path := ⟨Path.compare⟩

def atOrBefore (path other : Path) : Bool := (compare path other).isLE

theorem liesUnder_self {path : Path} (notEmpty : path ≠ .empty) : path.liesUnder path = true := by
  cases path with
  | empty => exact absurd rfl notEmpty
  | absolute prims property => cases property <;> simp [liesUnder]

theorem ne_empty_of_isPrim {path : Path} (isPrim : path.isPrim = true) : path ≠ .empty := by
  intro same
  subst same
  contradiction

theorem isEmpty_eq_false {path : Path} : path.isEmpty = false ↔ path ≠ .empty := by
  cases path <;> simp [isEmpty]

theorem height_parent_lt {path : Path} (notEmpty : path.isEmpty = false) :
    path.parent.height < path.height := by
  rcases path with _ | ⟨_ | ⟨first, rest⟩, _ | name⟩ <;>
    simp_all [isEmpty, parent, height, elementCount]

end Path

end LayeredScene
