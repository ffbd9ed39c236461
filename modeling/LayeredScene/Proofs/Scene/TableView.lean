import LayeredScene.Path.Order
import LayeredScene.Scene.Table
import LayeredScene.Search.Cutting
import Mathlib.Tactic.Common

/-! # What a table stores

Each operation on a table is described by what is stored at every path afterwards. The table is a
run in path order, so cutting it where a path belongs separates what comes before the path from the
rest, and the subtree of a path is the beginning of the rest.
-/

namespace LayeredScene

namespace PrimTable

variable {table : PrimTable} {path other : Path}

def keys (table : PrimTable) : List Path := table.entries.map (·.1)

def IsOrdered (table : PrimTable) : Prop :=
  table.keys.Pairwise fun earlier later => earlier.atOrBefore later = true ∧ earlier ≠ later

theorem contains_iff_mem (table : PrimTable) (path : Path) :
    table.contains path = true ↔ path ∈ table.keys := by
  simp [contains, stored?, keys]

theorem ne_of_contains (stored : table.contains other = true)
    (absent : table.contains path = false) : other ≠ path := by
  intro same
  subst same
  rw [absent] at stored
  contradiction

theorem key_ne_of_absent (absent : table.contains path = false) {stored : Path × TableEntry}
    (member : stored ∈ table.entries) : stored.1 ≠ path :=
  ne_of_contains ((table.contains_iff_mem _).mpr (List.mem_map_of_mem member)) absent

theorem keys_change (table : PrimTable) (path : Path) (edit : TableEntry → TableEntry) :
    (table.change path edit).keys = table.keys := by
  rw [keys, change, List.map_map]
  apply List.map_congr_left
  intro stored _
  by_cases same : stored.1 = path <;> simp [same]

/-! ## Cutting a table where a path belongs -/

theorem before_append_startingAt (table : PrimTable) (path : Path) :
    table.before path ++ table.startingAt path = table.entries :=
  List.takeWhile_append_dropWhile

namespace IsOrdered

theorem before_downward (ordered : table.IsOrdered) (path : Path) :
    table.entries.Pairwise fun earlier later =>
      (!path.atOrBefore later.1) = true → (!path.atOrBefore earlier.1) = true := by
  apply (List.pairwise_map.mp ordered).imp
  intro earlier later order laterBefore
  by_contra notBefore
  simp only [Bool.not_eq_true', Bool.not_eq_false] at laterBefore notBefore
  rw [Path.atOrBefore_trans notBefore order.1] at laterBefore
  contradiction

theorem before_eq_filter (ordered : table.IsOrdered) (path : Path) :
    table.before path = table.entries.filter fun stored => !path.atOrBefore stored.1 :=
  takeWhile_eq_filter (ordered.before_downward path)

theorem startingAt_eq_filter (ordered : table.IsOrdered) (path : Path) :
    table.startingAt path = table.entries.filter fun stored => path.atOrBefore stored.1 := by
  rw [startingAt, dropWhile_eq_filter (ordered.before_downward path)]
  simp

theorem before_append_dropWhile (ordered : table.IsOrdered) (notEmpty : path ≠ .empty) :
    table.before path ++ (table.startingAt path).dropWhile (·.1.liesUnder path) =
      table.entries.filter fun stored => !stored.1.liesUnder path := by
  have unbroken : (table.startingAt path).Pairwise fun earlier later =>
      later.1.liesUnder path = true → earlier.1.liesUnder path = true := by
    rw [ordered.startingAt_eq_filter]
    apply List.pairwise_filter.mpr
    apply (List.pairwise_map.mp ordered).imp
    intro earlier later order earlierFrom _ laterUnder
    exact Path.liesUnder_of_between (Path.liesUnder_self notEmpty) laterUnder earlierFrom order.1
  have outside : (table.before path).filter (fun stored => !stored.1.liesUnder path) =
      table.before path := by
    apply List.filter_eq_self.mpr
    intro stored member
    rw [ordered.before_eq_filter] at member
    by_contra under
    have precedes := (List.mem_filter.mp member).2
    rw [Path.atOrBefore_of_liesUnder (by simpa using under)] at precedes
    contradiction
  rw [dropWhile_eq_filter unbroken, ← table.before_append_startingAt path, List.filter_append,
    outside]

theorem change (ordered : table.IsOrdered) (path : Path) (edit : TableEntry → TableEntry) :
    (table.change path edit).IsOrdered := by
  rw [IsOrdered, keys_change]
  exact ordered

theorem filter (ordered : table.IsOrdered) (keeps : Path × TableEntry → Bool) :
    (PrimTable.mk (table.entries.filter keeps)).IsOrdered :=
  ordered.sublist (List.filter_sublist.map _)

theorem place (ordered : table.IsOrdered) (absent : table.contains path = false)
    (entry : TableEntry) : (table.place path entry).IsOrdered := by
  have entries := List.pairwise_map.mp ordered
  apply List.pairwise_map.mpr
  rw [PrimTable.place, ordered.before_eq_filter, ordered.startingAt_eq_filter]
  apply List.pairwise_append.mpr
  refine ⟨entries.filter _, List.pairwise_cons.mpr ⟨?_, entries.filter _⟩, ?_⟩
  · intro later member
    have parts := List.mem_filter.mp member
    exact ⟨parts.2, (key_ne_of_absent absent parts.1).symm⟩
  · intro earlier earlierMember later laterMember
    have precedes : path.atOrBefore earlier.1 = false := by
      simpa using (List.mem_filter.mp earlierMember).2
    have earlierFirst : earlier.1.atOrBefore path = true := by
      simpa [precedes] using Path.atOrBefore_total path earlier.1
    have laterFrom : path.atOrBefore later.1 = true := by
      rcases List.mem_cons.mp laterMember with rfl | member
      · exact Path.atOrBefore_refl path
      · exact (List.mem_filter.mp member).2
    refine ⟨Path.atOrBefore_trans earlierFirst laterFrom, ?_⟩
    intro same
    rw [same, laterFrom] at precedes
    contradiction

end IsOrdered

/-! ## What is stored afterwards -/

theorem stored?_change (table : PrimTable) (path : Path) (edit : TableEntry → TableEntry)
    (other : Path) :
    (table.change path edit).stored? other =
      if other = path then (table.stored? other).map edit else table.stored? other := by
  have sameKey : ((fun stored : Path × TableEntry => decide (stored.1 = other)) ∘
      fun stored => if stored.1 = path then (stored.1, edit stored.2) else stored) =
      fun stored => decide (stored.1 = other) := by
    funext stored
    by_cases same : stored.1 = path <;> simp [same]
  rw [stored?, stored?, change, List.find?_map, sameKey, Option.map_map]
  cases found : table.entries.find? fun stored => decide (stored.1 = other) with
  | none => simp
  | some stored =>
      have isOther : stored.1 = other := by simpa using List.find?_some found
      by_cases same : other = path <;> simp [isOther, same]

theorem contains_change (table : PrimTable) (path : Path) (edit : TableEntry → TableEntry)
    (other : Path) : (table.change path edit).contains other = table.contains other := by
  rw [contains, stored?_change, contains]
  by_cases same : other = path <;> simp [same]

theorem stored?_place (absent : table.contains path = false) (entry : TableEntry) (other : Path) :
    (table.place path entry).stored? other =
      if other = path then some entry else table.stored? other := by
  have parts := table.before_append_startingAt path
  simp only [stored?, place]
  by_cases same : other = path
  · subst other
    have notBefore : (table.before path).find? (fun stored => decide (stored.1 = path)) = none := by
      apply List.find?_eq_none.mpr
      intro stored member
      have isStored : stored ∈ table.entries := parts ▸ List.mem_append_left _ member
      simpa using key_ne_of_absent absent isStored
    simp [List.find?_append, notBefore]
  · rw [← parts, List.find?_append, List.find?_append,
      List.find?_cons_of_neg (by simpa using Ne.symm same), if_neg same]

theorem stored?_grow (absent : table.contains path = false) (other : Path) :
    (table.grow path).stored? other =
      if other = path then some ⟨.blank, []⟩
      else if other = path.parent then
        (table.stored? other).map fun entry => { entry with children := entry.children ++ [path] }
      else table.stored? other := by
  rw [grow, stored?_place (by rw [contains_change]; exact absent), stored?_change]

theorem prim_of_absent (absent : table.contains path = false) : table.prim path = .blank := by
  cases found : table.stored? path with
  | none => simp [prim, found]
  | some entry => simp [contains, found] at absent

theorem children_of_absent (absent : table.contains path = false) : table.children path = [] := by
  cases found : table.stored? path with
  | none => simp [children, found]
  | some entry => simp [contains, found] at absent

theorem contains_grow (absent : table.contains path = false) (other : Path) :
    (table.grow path).contains other = true ↔ other = path ∨ table.contains other = true := by
  rw [contains, stored?_grow absent]
  by_cases same : other = path
  · simp [same]
  · rw [if_neg same]
    by_cases above : other = path.parent
    · rw [if_pos above, Option.isSome_map]
      simp [same, contains]
    · rw [if_neg above]
      simp [same, contains]

theorem prim_grow (absent : table.contains path = false) (other : Path) :
    (table.grow path).prim other = table.prim other := by
  by_cases same : other = path
  · subst other
    rw [prim_of_absent absent, prim, stored?_grow absent]
    simp
  · rw [prim, stored?_grow absent, if_neg same, prim]
    by_cases above : other = path.parent <;> simp [above, Function.comp_def]

theorem children_grow (absent : table.contains path = false)
    (parentStored : table.contains path.parent = true) (other : Path) :
    (table.grow path).children other =
      if other = path then []
      else if other = path.parent then table.children other ++ [path]
      else table.children other := by
  rw [children, stored?_grow absent]
  by_cases same : other = path
  · simp [same]
  · rw [if_neg same, if_neg same]
    by_cases above : other = path.parent
    · subst other
      rcases Option.isSome_iff_exists.mp parentStored with ⟨entry, found⟩
      simp [children, found]
    · rw [if_neg above, if_neg above, children]

theorem mem_children_grow (absent : table.contains path = false)
    (parentStored : table.contains path.parent = true) {owner child : Path}
    (member : child ∈ (table.grow path).children owner) :
    owner = path.parent ∧ child = path ∨ child ∈ table.children owner := by
  rw [children_grow absent parentStored] at member
  split at member
  · cases member
  · split at member
    · rename_i isParent
      rcases List.mem_append.mp member with member | isNew
      · exact .inr member
      · exact .inl ⟨isParent, List.mem_singleton.mp isNew⟩
    · exact .inr member

theorem children_setPrim (table : PrimTable) (path : Path) (prim : Prim) (owner : Path) :
    (table.change path fun entry => { entry with prim := prim }).children owner =
      table.children owner := by
  rw [children, stored?_change, children]
  by_cases same : owner = path
  · rw [if_pos same, Option.map_map]
    rfl
  · rw [if_neg same]

theorem prim_setPrim (stored : table.contains path = true) (prim : Prim) (other : Path) :
    (table.change path fun entry => { entry with prim := prim }).prim other =
      if other = path then prim else table.prim other := by
  rw [PrimTable.prim, stored?_change]
  by_cases same : other = path
  · subst other
    rcases Option.isSome_iff_exists.mp stored with ⟨entry, found⟩
    simp [found]
  · rw [if_neg same, if_neg same, PrimTable.prim]

theorem inserted_of_isPrim (isPrim : path.isPrim = true) (table : PrimTable) (prim : Prim) :
    table.inserted path prim =
      (table.ensure path).change path fun entry => { entry with prim := prim } := by
  rw [inserted, insert, if_pos isPrim]
  rfl

theorem inserted_of_not_isPrim (notPrim : path.isPrim = false) (table : PrimTable) (prim : Prim) :
    table.inserted path prim = table := by
  rw [inserted, insert, if_neg (by simp [notPrim])]
  rfl

theorem stored?_filter (table : PrimTable) (path other : Path) :
    (PrimTable.mk (table.entries.filter fun stored => !stored.1.liesUnder path)).stored? other =
      if other.liesUnder path then none else table.stored? other := by
  simp only [stored?, List.find?_filter]
  cases under : other.liesUnder path with
  | true =>
      rw [if_pos rfl, Option.map_eq_none_iff]
      apply List.find?_eq_none.mpr
      intro stored _
      simp only [decide_eq_true_eq, not_and]
      intro outside same
      subst same
      rw [under] at outside
      contradiction
  | false =>
      rw [if_neg (by simp)]
      congr 2
      funext stored
      by_cases same : stored.1 = other <;> simp [same, under]

section Removing

variable (ordered : table.IsOrdered) (stored : table.contains path = true)
variable (notEmpty : path ≠ .empty) (notRoot : path.isRoot = false) (other : Path)

include ordered stored notEmpty notRoot

theorem stored?_removeSubtree :
    (table.removeSubtree path).1.stored? other =
      if other.liesUnder path then none
      else if other = path.parent then
        (table.stored? other).map fun entry =>
          { entry with children := entry.children.filter (· ≠ path) }
      else table.stored? other := by
  rw [removeSubtree, if_neg (by simp [notRoot]), if_pos stored]
  simp only
  rw [ordered.before_append_dropWhile notEmpty, stored?_change, stored?_filter]
  cases other.liesUnder path <;> simp

theorem contains_removeSubtree_of_contains :
    (table.removeSubtree path).1.contains other = true ↔
      table.contains other = true ∧ other.liesUnder path = false := by
  rw [contains, stored?_removeSubtree ordered stored notEmpty notRoot, contains]
  cases other.liesUnder path with
  | true => simp
  | false => by_cases isParent : other = path.parent <;> simp [isParent]

theorem prim_removeSubtree_of_contains :
    (table.removeSubtree path).1.prim other =
      if other.liesUnder path then .blank else table.prim other := by
  rw [prim, stored?_removeSubtree ordered stored notEmpty notRoot, prim]
  cases other.liesUnder path with
  | true => rfl
  | false => by_cases isParent : other = path.parent <;> simp [isParent, Function.comp_def]

theorem children_removeSubtree_of_contains :
    (table.removeSubtree path).1.children other =
      if other.liesUnder path then []
      else if other = path.parent then (table.children other).filter (· ≠ path)
      else table.children other := by
  rw [children, stored?_removeSubtree ordered stored notEmpty notRoot, children]
  cases other.liesUnder path with
  | true => rfl
  | false =>
      by_cases isParent : other = path.parent
      · subst other
        cases table.stored? path.parent <;> simp
      · simp [isParent]

theorem IsOrdered.removeSubtree : (table.removeSubtree path).1.IsOrdered := by
  rw [PrimTable.removeSubtree, if_neg (by simp [notRoot]), if_pos stored]
  simp only
  rw [ordered.before_append_dropWhile notEmpty]
  exact (ordered.filter _).change _ _

end Removing

theorem removeSubtree_root (table : PrimTable) : (table.removeSubtree .root).1 = empty := rfl

theorem removeSubtree_of_absent (absent : table.contains path = false)
    (notRoot : path.isRoot = false) : (table.removeSubtree path).1 = table := by
  rw [removeSubtree, if_neg (by simp [notRoot]), if_neg (by simp [absent])]

/-! ## The table with only the root in it -/

theorem contains_empty (path : Path) : empty.contains path = true ↔ path = .root := by
  simp [contains_iff_mem, keys, empty]

theorem prim_empty (path : Path) : empty.prim path = .blank := by
  by_cases isRoot : path = .root
  · subst path
    rfl
  · exact prim_of_absent (by rw [Bool.eq_false_iff, ne_eq, contains_empty]; exact isRoot)

theorem children_empty (path : Path) : empty.children path = [] := by
  by_cases isRoot : path = .root
  · subst path
    rfl
  · exact children_of_absent (by rw [Bool.eq_false_iff, ne_eq, contains_empty]; exact isRoot)

end PrimTable

end LayeredScene
