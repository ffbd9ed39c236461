import LayeredScene.Proofs.Scene.TableView
import Mathlib.Logic.Function.Iterate

/-! # Tables are trees

The stored paths and the lists of children agree: every stored prim but the root is listed once, by
the stored prim above it, and nothing else is listed. Storing a prim and removing a subtree keep it
so, whatever the path. Storing adds to the end of lists of children and nowhere else, and removing a
subtree leaves all that is outside of it as it was.
-/

namespace LayeredScene.PrimTable

variable {table : PrimTable} {path : Path}

/-- The stored paths are prim paths below the stored root, and the children of each are those stored
right below it, each of them once. -/
structure IsTree (table : PrimTable) : Prop where
  ordered : table.IsOrdered
  root_stored : table.contains .root = true
  isPrim : ∀ path, table.contains path = true → path.isPrim = true
  parent_stored : ∀ path, table.contains path = true → path ≠ .root →
    table.contains path.parent = true
  listed_once : ∀ path, table.contains path = true → path ≠ .root →
    (table.children path.parent).count path = 1
  child_stored : ∀ owner child, child ∈ table.children owner → table.contains child = true
  child_parent : ∀ owner child, child ∈ table.children owner → child.parent = owner

/-- The children of what was stored are the same, or one that was not stored has come to the end of
them. -/
def OnlyAppends (before after : PrimTable) : Prop :=
  ∀ owner, before.contains owner = true →
    after.children owner = before.children owner ∨
      ∃ child, before.contains child = false ∧
        after.children owner = before.children owner ++ [child]

/-- Nothing is gone from a table, no prim but the one at a path is another, and children have only
come at the end. -/
structure Extends (before after : PrimTable) (path : Path) : Prop where
  contains : ∀ other, before.contains other = true → after.contains other = true
  prim : ∀ other, other ≠ path → after.prim other = before.prim other
  children : before.OnlyAppends after

/-- What lies under a path is gone from a table, and all else is as it was, except that nothing that
is gone is among the children. -/
structure Drops (before after : PrimTable) (path : Path) : Prop where
  contains : ∀ other, after.contains other = true ↔
    before.contains other = true ∧ other.liesUnder path = false
  prim : ∀ other, after.contains other = true → after.prim other = before.prim other
  children : ∀ other, after.contains other = true →
    after.children other = (before.children other).filter fun child => !child.liesUnder path

structure Ensures (before after : PrimTable) (path : Path) : Prop where
  tree : after.IsTree
  contains : ∀ other, after.contains other = true ↔
    before.contains other = true ∨ path.liesUnder other = true
  prim : ∀ other, after.prim other = before.prim other
  children : before.OnlyAppends after

theorem ensure_of_contains (stored : table.contains path = true) : table.ensure path = table := by
  rw [ensure, if_pos (by simp [stored])]

namespace IsTree

theorem ne_empty (tree : table.IsTree) (stored : table.contains path = true) : path ≠ .empty :=
  Path.ne_empty_of_isPrim (tree.isPrim path stored)

theorem empty_absent (tree : table.IsTree) : table.contains .empty = false := by
  apply Bool.eq_false_iff.mpr
  intro stored
  exact tree.ne_empty stored rfl

theorem contains_of_liesUnder (tree : table.IsTree) {path above : Path}
    (stored : table.contains path = true) (under : path.liesUnder above = true) :
    table.contains above = true :=
  Path.of_liesUnder tree.isPrim tree.parent_stored stored under

/-! ## Storing -/

theorem grow (tree : table.IsTree) (absent : table.contains path = false)
    (isPrim : path.isPrim = true) (parentStored : table.contains path.parent = true) :
    (table.grow path).IsTree where
  ordered := (tree.ordered.change _ _).place (by rw [contains_change]; exact absent) _
  root_stored := (contains_grow absent _).mpr (.inr tree.root_stored)
  isPrim other stored := by
    rcases (contains_grow absent other).mp stored with rfl | stored
    · exact isPrim
    · exact tree.isPrim other stored
  parent_stored other stored notRoot := by
    apply (contains_grow absent _).mpr
    rcases (contains_grow absent other).mp stored with rfl | stored
    · exact .inr parentStored
    · exact .inr (tree.parent_stored other stored notRoot)
  listed_once other stored notRoot := by
    have parentOther := ne_of_contains parentStored absent
    rw [children_grow absent parentStored]
    rcases (contains_grow absent other).mp stored with rfl | otherStored
    · have unlisted : other ∉ table.children other.parent := by
        intro member
        rw [tree.child_stored _ _ member] at absent
        contradiction
      rw [if_neg parentOther, if_pos rfl, List.count_append, List.count_eq_zero.mpr unlisted]
      simp
    · have different := ne_of_contains otherStored absent
      have ownerOther := ne_of_contains (tree.parent_stored other otherStored notRoot) absent
      have once := tree.listed_once other otherStored notRoot
      rw [if_neg ownerOther]
      by_cases sameOwner : other.parent = path.parent
      · rw [if_pos sameOwner, List.count_append, once]
        simp [Ne.symm different]
      · rw [if_neg sameOwner, once]
  child_stored owner child member := by
    apply (contains_grow absent child).mpr
    rcases mem_children_grow absent parentStored member with ⟨_, rfl⟩ | member
    · exact .inl rfl
    · exact .inr (tree.child_stored owner child member)
  child_parent owner child member := by
    rcases mem_children_grow absent parentStored member with ⟨rfl, rfl⟩ | member
    · rfl
    · exact tree.child_parent owner child member

theorem ensure_of_absent (tree : table.IsTree) (absent : table.contains path = false)
    (isPrim : path.isPrim = true) :
    table.ensure path = (table.ensure path.parent).grow path ∧ path ≠ .root := by
  constructor
  · have notEmpty := Path.isEmpty_eq_false.mpr (Path.ne_empty_of_isPrim isPrim)
    rw [PrimTable.ensure, if_neg (by simp [absent, notEmpty])]
  · intro same
    subst same
    rw [tree.root_stored] at absent
    contradiction

theorem ensure (tree : table.IsTree) {path : Path} (isPrim : path.isPrim = true) :
    Ensures table (table.ensure path) path := by
  cases stored : table.contains path with
  | true =>
      rw [ensure_of_contains stored]
      exact {
        tree := tree
        contains := fun other => ⟨.inl, fun either =>
          either.elim id (tree.contains_of_liesUnder stored)⟩
        prim := fun _ => rfl
        children := fun _ _ => .inl rfl }
  | false =>
      -- all above is stored first, which does not store the path itself
      rcases tree.ensure_of_absent stored isPrim with ⟨step, notRoot⟩
      have parentPrim := Path.isPrim_parent isPrim notRoot
      have above := tree.ensure parentPrim
      have absent : (table.ensure path.parent).contains path = false := by
        apply Bool.eq_false_iff.mpr
        intro isThere
        rcases (above.contains path).mp isThere with isThere | under
        · rw [stored] at isThere
          contradiction
        · rw [Path.not_parent_liesUnder] at under
          contradiction
      have parentStored : (table.ensure path.parent).contains path.parent = true :=
        (above.contains _).mpr (.inr (Path.liesUnder_self (Path.ne_empty_of_isPrim parentPrim)))
      rw [step]
      constructor
      · exact above.tree.grow absent isPrim parentStored
      · intro other
        rw [contains_grow absent, above.contains, Path.liesUnder_iff_parent isPrim notRoot]
        tauto
      · intro other
        rw [prim_grow absent, above.prim]
      · intro owner ownerStored
        have different := ne_of_contains ownerStored stored
        rw [children_grow absent parentStored, if_neg different]
        by_cases isParent : owner = path.parent
        · subst owner
          rw [if_pos rfl, ensure_of_contains ownerStored]
          exact .inr ⟨path, stored, rfl⟩
        · rw [if_neg isParent]
          exact above.children owner ownerStored
termination_by path.height
decreasing_by
  exact Path.height_parent_lt (Path.isEmpty_eq_false.mpr (Path.ne_empty_of_isPrim isPrim))

theorem of_same_keys (tree : table.IsTree) {other : PrimTable} (keys : other.keys = table.keys)
    (children : ∀ owner, other.children owner = table.children owner) : other.IsTree := by
  have contains : ∀ path, other.contains path = table.contains path := by
    intro path
    rw [Bool.eq_iff_iff, contains_iff_mem, contains_iff_mem, keys]
  constructor
  · rw [IsOrdered, keys]
    exact tree.ordered
  all_goals simp only [contains, children]
  · exact tree.root_stored
  · exact tree.isPrim
  · exact tree.parent_stored
  · exact tree.listed_once
  · exact tree.child_stored
  · exact tree.child_parent

theorem inserted (tree : table.IsTree) (path : Path) (prim : Prim) :
    (table.inserted path prim).IsTree := by
  cases isPrim : path.isPrim with
  | true =>
      rw [inserted_of_isPrim isPrim]
      exact (tree.ensure isPrim).tree.of_same_keys (keys_change _ _ _) (children_setPrim _ _ _)
  | false =>
      rw [inserted_of_not_isPrim isPrim]
      exact tree

theorem contains_inserted (tree : table.IsTree) (path : Path) (prim : Prim) (other : Path) :
    (table.inserted path prim).contains other = true ↔
      table.contains other = true ∨ path.isPrim = true ∧ path.liesUnder other = true := by
  cases isPrim : path.isPrim with
  | true =>
      rw [inserted_of_isPrim isPrim, contains_change, (tree.ensure isPrim).contains]
      simp
  | false =>
      rw [inserted_of_not_isPrim isPrim]
      simp

theorem prim_inserted (tree : table.IsTree) (path : Path) (prim : Prim) (other : Path) :
    (table.inserted path prim).prim other =
      if path.isPrim = true ∧ other = path then prim else table.prim other := by
  cases isPrim : path.isPrim with
  | true =>
      have ensured := tree.ensure isPrim
      have stored : (table.ensure path).contains path = true :=
        (ensured.contains path).mpr (.inr (Path.liesUnder_self (Path.ne_empty_of_isPrim isPrim)))
      rw [inserted_of_isPrim isPrim, prim_setPrim stored, ensured.prim]
      simp
  | false =>
      rw [inserted_of_not_isPrim isPrim]
      simp

theorem extends_inserted (tree : table.IsTree) (path : Path) (prim : Prim) :
    Extends table (table.inserted path prim) path where
  contains other stored := (tree.contains_inserted path prim other).mpr (.inl stored)
  prim other different := by
    rw [tree.prim_inserted, if_neg (by simp [different])]
  children owner stored := by
    cases isPrim : path.isPrim with
    | true =>
        rw [inserted_of_isPrim isPrim, children_setPrim]
        exact (tree.ensure isPrim).children owner stored
    | false =>
        rw [inserted_of_not_isPrim isPrim]
        exact .inl rfl

/-! ## Removing -/

theorem child_ne_root (tree : table.IsTree) (owner child : Path)
    (member : child ∈ table.children owner) : child ≠ .root := by
  intro same
  subst same
  have nothing : table.children Path.root.parent = [] := children_of_absent tree.empty_absent
  rw [← tree.child_parent _ _ member, nothing] at member
  cases member

theorem child_liesUnder_iff (tree : table.IsTree) {owner child : Path}
    (outside : owner.liesUnder path = false) (member : child ∈ table.children owner) :
    child.liesUnder path = true ↔ child = path := by
  rw [Path.liesUnder_iff_parent (tree.isPrim _ (tree.child_stored _ _ member))
    (tree.child_ne_root owner child member), tree.child_parent _ _ member, outside]
  simp [eq_comm]

theorem drops_removeSubtree (tree : table.IsTree) (stored : table.contains path = true)
    (notRoot : path ≠ .root) : Drops table (table.removeSubtree path).1 path := by
  have notEmpty := tree.ne_empty stored
  have isRoot := Path.isRoot_eq_false.mpr notRoot
  have contains := contains_removeSubtree_of_contains tree.ordered stored notEmpty isRoot
  refine ⟨contains, ?_, ?_⟩
  · intro other there
    rw [prim_removeSubtree_of_contains tree.ordered stored notEmpty isRoot,
      ((contains other).mp there).2]
    rfl
  · intro other there
    have outside := ((contains other).mp there).2
    rw [children_removeSubtree_of_contains tree.ordered stored notEmpty isRoot, outside,
      if_neg Bool.false_ne_true]
    by_cases isParent : other = path.parent
    · rw [if_pos isParent]
      apply List.filter_congr
      intro child member
      rw [Bool.eq_iff_iff, Bool.not_eq_true', ← Bool.not_eq_true,
        tree.child_liesUnder_iff outside member]
      simp
    · rw [if_neg isParent]
      symm
      apply List.filter_eq_self.mpr
      intro child member
      rw [Bool.not_eq_true', ← Bool.not_eq_true, tree.child_liesUnder_iff outside member]
      intro same
      subst same
      exact isParent (tree.child_parent _ _ member).symm

theorem of_drops (tree : table.IsTree) {after : PrimTable} (drops : Drops table after path)
    (notRoot : path ≠ .root) (ordered : after.IsOrdered) : after.IsTree := by
  have owners : ∀ {owner child}, child ∈ after.children owner →
      child ∈ table.children owner ∧ child.liesUnder path = false := by
    intro owner child member
    cases there : after.contains owner with
    | true =>
        rw [drops.children owner there] at member
        simpa using List.mem_filter.mp member
    | false =>
        rw [children_of_absent there] at member
        cases member
  have above : ∀ other, after.contains other = true → other ≠ .root →
      after.contains other.parent = true := by
    intro other there otherNotRoot
    rcases (drops.contains other).mp there with ⟨stored, outside⟩
    apply (drops.contains _).mpr ⟨tree.parent_stored other stored otherNotRoot, _⟩
    rw [Bool.eq_false_iff, ne_eq] at outside ⊢
    intro parentUnder
    exact outside ((Path.liesUnder_iff_parent (tree.isPrim other stored) otherNotRoot).mpr
      (.inr parentUnder))
  constructor
  · exact ordered
  · apply (drops.contains _).mpr ⟨tree.root_stored, _⟩
    rw [Bool.eq_false_iff, ne_eq, Path.root_liesUnder_iff]
    exact notRoot
  · intro other there
    exact tree.isPrim other ((drops.contains other).mp there).1
  · exact above
  · intro other there otherNotRoot
    rcases (drops.contains other).mp there with ⟨stored, outside⟩
    rw [drops.children _ (above other there otherNotRoot), List.count_filter (by simp [outside])]
    exact tree.listed_once other stored otherNotRoot
  · intro owner child member
    rcases owners member with ⟨listed, outside⟩
    exact (drops.contains child).mpr ⟨tree.child_stored owner child listed, outside⟩
  · intro owner child member
    exact tree.child_parent owner child (owners member).1

theorem empty : PrimTable.empty.IsTree where
  ordered := List.pairwise_singleton _ _
  root_stored := rfl
  isPrim path stored := by
    rw [(contains_empty path).mp stored]
    rfl
  parent_stored path stored notRoot := absurd ((contains_empty path).mp stored) notRoot
  listed_once path stored notRoot := absurd ((contains_empty path).mp stored) notRoot
  child_stored owner child member := by
    rw [children_empty] at member
    cases member
  child_parent owner child member := by
    rw [children_empty] at member
    cases member

theorem removeSubtree (tree : table.IsTree) (path : Path) :
    (table.removeSubtree path).1.IsTree := by
  by_cases isRoot : path = .root
  · rw [isRoot, removeSubtree_root]
    exact empty
  · cases stored : table.contains path with
    | true =>
        have notRoot := Path.isRoot_eq_false.mpr isRoot
        exact tree.of_drops (tree.drops_removeSubtree stored isRoot) isRoot
          (tree.ordered.removeSubtree stored (tree.ne_empty stored) notRoot)
    | false =>
        rw [removeSubtree_of_absent stored (Path.isRoot_eq_false.mpr isRoot)]
        exact tree

theorem absent_of_liesUnder (tree : table.IsTree) {other : Path}
    (absent : table.contains path = false) (under : other.liesUnder path = true) :
    table.contains other = false := by
  apply Bool.eq_false_iff.mpr
  intro stored
  exact ne_of_contains (tree.contains_of_liesUnder stored under) absent rfl

theorem contains_removeSubtree (tree : table.IsTree) (path other : Path) :
    (table.removeSubtree path).1.contains other = true ↔
      other = .root ∨ table.contains other = true ∧ other.liesUnder path = false := by
  by_cases isRoot : path = .root
  · subst path
    rw [removeSubtree_root, contains_empty]
    constructor
    · exact .inl
    · intro given
      rcases given with isRoot | ⟨stored, outside⟩
      · exact isRoot
      · rw [Path.liesUnder_root_iff.mpr (tree.ne_empty stored)] at outside
        contradiction
  · have rootOutside : Path.root.liesUnder path = false := by
      rw [Bool.eq_false_iff, ne_eq, Path.root_liesUnder_iff]
      exact isRoot
    have rootStays : other = .root →
        table.contains other = true ∧ other.liesUnder path = false := by
      intro same
      subst same
      exact ⟨tree.root_stored, rootOutside⟩
    rw [or_iff_right_of_imp rootStays]
    cases stored : table.contains path with
    | true => exact (tree.drops_removeSubtree stored isRoot).contains other
    | false =>
        rw [removeSubtree_of_absent stored (Path.isRoot_eq_false.mpr isRoot)]
        constructor
        · intro there
          refine ⟨there, Bool.eq_false_iff.mpr fun under => ?_⟩
          exact ne_of_contains there (tree.absent_of_liesUnder stored under) rfl
        · exact And.left

theorem prim_removeSubtree (tree : table.IsTree) (path other : Path) :
    (table.removeSubtree path).1.prim other =
      if other.liesUnder path then .blank else table.prim other := by
  by_cases isRoot : path = .root
  · subst path
    rw [removeSubtree_root, prim_empty]
    by_cases isEmpty : other = .empty
    · rw [isEmpty, if_neg (by simp), prim_of_absent tree.empty_absent]
    · rw [if_pos (Path.liesUnder_root_iff.mpr isEmpty)]
  · have notRoot := Path.isRoot_eq_false.mpr isRoot
    cases stored : table.contains path with
    | true =>
        have notEmpty := tree.ne_empty stored
        exact prim_removeSubtree_of_contains tree.ordered stored notEmpty notRoot other
    | false =>
        rw [removeSubtree_of_absent stored notRoot]
        cases under : other.liesUnder path with
        | false => rfl
        | true => rw [prim_of_absent (tree.absent_of_liesUnder stored under), if_pos rfl]

end IsTree

/-! ## Every table -/

inductive Edit
  | store (path : Path) (prim : Prim)
  | remove (path : Path)

def edited (table : PrimTable) : Edit → PrimTable
  | .store path prim => table.inserted path prim
  | .remove path => (table.removeSubtree path).1

def afterEdits (edits : List Edit) : PrimTable := edits.foldl edited empty

theorem IsTree.edited (tree : table.IsTree) (edit : Edit) : (table.edited edit).IsTree := by
  cases edit with
  | store path prim => exact tree.inserted path prim
  | remove path => exact tree.removeSubtree path

theorem IsTree.foldl_edited (tree : table.IsTree) (edits : List Edit) :
    (edits.foldl PrimTable.edited table).IsTree := by
  induction edits generalizing table with
  | nil => exact tree
  | cons edit edits induction => exact induction (tree.edited edit)

theorem isTree_afterEdits (edits : List Edit) : (afterEdits edits).IsTree :=
  IsTree.empty.foldl_edited edits

theorem IsTree.climb (tree : table.IsTree) {path : Path} (isPrim : path.isPrim = true) :
    ∃ steps, table.contains (Path.parent^[steps] path) = true := by
  by_cases isRoot : path = .root
  · exact ⟨0, isRoot ▸ tree.root_stored⟩
  · rcases tree.climb (Path.isPrim_parent isPrim isRoot) with ⟨steps, stored⟩
    exact ⟨steps + 1, stored⟩
termination_by path.height
decreasing_by
  exact Path.height_parent_lt (Path.isEmpty_eq_false.mpr (Path.ne_empty_of_isPrim isPrim))

/-- After any edits at any paths a table is a tree, in which the climb to what is stored ends. A
further insertion only extends it, and removing a stored path other than the root drops the subtree
and nothing else. -/
theorem afterEdits_wellFormed (edits : List Edit) :
    (afterEdits edits).IsTree ∧
      (∀ path, path.isPrim = true →
        ∃ steps, (afterEdits edits).contains (Path.parent^[steps] path) = true) ∧
      (∀ path prim, Extends (afterEdits edits) ((afterEdits edits).inserted path prim) path) ∧
      ∀ path, (afterEdits edits).contains path = true → path ≠ .root →
        Drops (afterEdits edits) ((afterEdits edits).removeSubtree path).1 path := by
  have tree := isTree_afterEdits edits
  refine ⟨tree, ?_, ?_, ?_⟩
  · intro path isPrim
    exact tree.climb isPrim
  · intro path prim
    exact tree.extends_inserted path prim
  · intro path stored notRoot
    exact tree.drops_removeSubtree stored notRoot

example : (afterEdits [.store (.absolute ["a", "b"] none) .blank,
    .remove (.absolute ["a", "b"] none)]).children .root = [.absolute ["a"] none] := by
  decide +kernel

end LayeredScene.PrimTable
