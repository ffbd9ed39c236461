import LayeredScene.Path.Order

/-! # Subtrees in the order of paths

Lying under is an order of its own on the paths that are not empty. The two orders fit together: the
paths that lie under one path follow it in the order of paths, with no other path among them.
-/

namespace LayeredScene.Path

/-- Some paths are an interval of the order of paths that starts with one of them. -/
structure IsIntervalFrom (first : Path) (member : Path → Prop) : Prop where
  starts : member first
  least : ∀ path, member path → first.atOrBefore path = true
  unbroken : ∀ lower middle upper, member lower → member upper →
    lower.atOrBefore middle = true → middle.atOrBefore upper = true → member middle

theorem isIntervalFrom_subtree {above : Path} (notEmpty : above ≠ .empty) :
    IsIntervalFrom above fun path => path.liesUnder above = true where
  starts := liesUnder_self notEmpty
  least _ := atOrBefore_of_liesUnder
  unbroken _ _ _ := liesUnder_of_between

/-- Every path but the empty one lies under itself, what lies under a path lies under all that the
path lies under, and no two paths lie under each other. What lies under a path is an interval of the
order of paths, and the path comes first in it. -/
theorem subtrees_are_intervals :
    (∀ path : Path, path ≠ .empty → path.liesUnder path = true) ∧
    (∀ path middle above : Path, path.liesUnder middle = true → middle.liesUnder above = true →
      path.liesUnder above = true) ∧
    (∀ path other : Path, path.liesUnder other = true → other.liesUnder path = true →
      path = other) ∧
    ∀ above : Path, above ≠ .empty →
      IsIntervalFrom above fun path => path.liesUnder above = true :=
  ⟨fun _ => liesUnder_self, fun _ _ _ => liesUnder_trans, fun _ _ => eq_of_liesUnder,
    fun _ => isIntervalFrom_subtree⟩

/-- A property comes before what lies below its prim, and under the prim with it; what only starts
with the same letters comes after. -/
example :
    let prim := absolute ["a"] none
    let property := absolute ["a"] (some "z")
    let below := absolute ["a", "b"] none
    let other := absolute ["ab"] none
    property.atOrBefore below = true ∧ below.atOrBefore other = true ∧
      property.liesUnder prim = true ∧ below.liesUnder prim = true ∧
      other.liesUnder prim = false := by
  decide +kernel

end LayeredScene.Path
