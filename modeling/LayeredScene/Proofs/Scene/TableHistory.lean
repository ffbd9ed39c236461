import LayeredScene.Proofs.Scene.TableTree
import Mathlib.Data.List.Induction

/-! # What a table says about its history

The prims and paths in a table can be read off the edits that led to it, without the table: a prim
is the one stored last at its path, unless something above it was removed since, and a path is there
if something was stored at or under it since anything above it was last removed.
-/

namespace LayeredScene.PrimTable

variable {table : PrimTable} {history : List Edit} {path : Path}

namespace Edit

def removes (path : Path) : Edit → Bool
  | .store .. => false
  | .remove top => path.liesUnder top

def stores (path : Path) : Edit → Bool
  | .store other _ => decide (other = path)
  | .remove _ => false

end Edit

/-- An edit of a history after which all edits are of some sort. -/
def Followed (history : List Edit) (edit : Edit) (sort : Edit → Prop) : Prop :=
  ∃ earlier later, history = earlier ++ edit :: later ∧ ∀ next ∈ later, sort next

/-- A prim is the last one stored at a path, and the path was not removed since. -/
def StoredLast (history : List Edit) (path : Path) (prim : Prim) : Prop :=
  Followed history (.store path prim) fun next =>
    next.removes path = false ∧ next.stores path = false

/-- Something was stored at a path or under it, and the path was not removed since. -/
def StoredUnder (history : List Edit) (path : Path) : Prop :=
  ∃ lower prim, lower.isPrim = true ∧ lower.liesUnder path = true ∧
    Followed history (.store lower prim) fun next => next.removes path = false

/-- What a table holds is what its history says. -/
structure Reflects (table : PrimTable) (history : List Edit) : Prop where
  prim_stored : ∀ path prim, path.isPrim = true → StoredLast history path prim →
    table.prim path = prim
  prim_blank : ∀ path, path.isPrim = true → (∀ prim, ¬StoredLast history path prim) →
    table.prim path = .blank
  contains : ∀ path, table.contains path = true ↔ path = .root ∨ StoredUnder history path

theorem followed_concat {last edit : Edit} {sort : Edit → Prop} :
    Followed (history ++ [last]) edit sort ↔
      edit = last ∨ sort last ∧ Followed history edit sort := by
  constructor
  · intro given
    rcases given with ⟨earlier, later, split, isSort⟩
    rcases List.eq_nil_or_concat later with rfl | ⟨rest, final, rfl⟩
    · have parts := List.append_inj' split rfl
      exact .inl (List.singleton_inj.mp parts.2).symm
    · rw [List.concat_eq_append] at split isSort
      rw [← List.cons_append, ← List.append_assoc] at split
      have parts := List.append_inj' split rfl
      have isLast := List.singleton_inj.mp parts.2
      refine .inr ⟨isLast ▸ isSort final (by simp), earlier, rest, parts.1, ?_⟩
      intro next member
      exact isSort next (List.mem_append_left _ member)
  · intro given
    rcases given with rfl | ⟨isSort, earlier, later, rfl, others⟩
    · exact ⟨history, [], rfl, by simp⟩
    · refine ⟨earlier, later ++ [last], by simp, ?_⟩
      intro next member
      rcases List.mem_append.mp member with member | isLast
      · exact others next member
      · rw [List.mem_singleton.mp isLast]
        exact isSort

theorem not_followed_nil {edit : Edit} {sort : Edit → Prop} : ¬Followed [] edit sort := by
  intro given
  rcases given with ⟨earlier, later, split, _⟩
  simp at split

theorem storedLast_concat_store {other : Path} {prim stored : Prim} :
    StoredLast (history ++ [.store other stored]) path prim ↔
      if other = path then prim = stored else StoredLast history path prim := by
  rw [StoredLast, followed_concat]
  by_cases same : other = path
  · subst other
    simp [Edit.stores]
  · have different : path ≠ other := Ne.symm same
    simp only [Edit.store.injEq, Edit.removes, Edit.stores, different, same, false_and, false_or,
      decide_false, and_self, true_and, if_false]
    rfl

theorem storedLast_concat_remove {top : Path} {prim : Prim} :
    StoredLast (history ++ [.remove top]) path prim ↔
      path.liesUnder top = false ∧ StoredLast history path prim := by
  rw [StoredLast, followed_concat]
  simp [Edit.removes, Edit.stores, StoredLast]

theorem storedUnder_concat_store {other : Path} {stored : Prim} :
    StoredUnder (history ++ [.store other stored]) path ↔
      other.isPrim = true ∧ other.liesUnder path = true ∨ StoredUnder history path := by
  simp only [StoredUnder, followed_concat, Edit.removes]
  constructor
  · intro given
    rcases given with ⟨lower, prim, isPrim, under, isLast | ⟨_, followed⟩⟩
    · cases isLast
      exact .inl ⟨isPrim, under⟩
    · exact .inr ⟨lower, prim, isPrim, under, followed⟩
  · intro given
    rcases given with ⟨isPrim, under⟩ | ⟨lower, prim, isPrim, under, followed⟩
    · exact ⟨other, stored, isPrim, under, .inl rfl⟩
    · exact ⟨lower, prim, isPrim, under, .inr ⟨trivial, followed⟩⟩

theorem storedUnder_concat_remove {top : Path} :
    StoredUnder (history ++ [.remove top]) path ↔
      path.liesUnder top = false ∧ StoredUnder history path := by
  simp only [StoredUnder, followed_concat, Edit.removes]
  constructor
  · intro given
    rcases given with ⟨lower, prim, isPrim, under, isLast | ⟨outside, followed⟩⟩
    · cases isLast
    · exact ⟨outside, lower, prim, isPrim, under, followed⟩
  · intro given
    rcases given with ⟨outside, lower, prim, isPrim, under, followed⟩
    exact ⟨lower, prim, isPrim, under, .inr ⟨outside, followed⟩⟩

/-! ## One edit and all of them -/

theorem Reflects.empty : PrimTable.empty.Reflects [] where
  prim_stored path prim _ stored := absurd stored not_followed_nil
  prim_blank path _ _ := prim_empty path
  contains path := by
    rw [contains_empty]
    constructor
    · exact .inl
    · intro given
      rcases given with isRoot | ⟨_, _, _, _, followed⟩
      · exact isRoot
      · exact absurd followed not_followed_nil

theorem Reflects.edited (reflects : table.Reflects history) (tree : table.IsTree) (edit : Edit) :
    (table.edited edit).Reflects (history ++ [edit]) := by
  cases edit with
  | store other stored =>
      constructor
      · intro path prim isPrim last
        rw [storedLast_concat_store] at last
        rw [PrimTable.edited, tree.prim_inserted]
        by_cases same : other = path
        · subst other
          rw [if_pos rfl] at last
          rw [if_pos ⟨isPrim, rfl⟩, last]
        · rw [if_neg same] at last
          rw [if_neg (fun both => same both.2.symm)]
          exact reflects.prim_stored path prim isPrim last
      · intro path isPrim never
        have different : other ≠ path := by
          intro same
          subst same
          exact never stored (storedLast_concat_store.mpr (by simp))
        rw [PrimTable.edited, tree.prim_inserted, if_neg (fun both => different both.2.symm)]
        apply reflects.prim_blank path isPrim
        intro prim last
        exact never prim (storedLast_concat_store.mpr (by rw [if_neg different]; exact last))
      · intro path
        rw [PrimTable.edited, tree.contains_inserted, reflects.contains, storedUnder_concat_store]
        tauto
  | remove top =>
      constructor
      · intro path prim isPrim last
        rcases storedLast_concat_remove.mp last with ⟨outside, last⟩
        rw [PrimTable.edited, tree.prim_removeSubtree, outside]
        exact reflects.prim_stored path prim isPrim last
      · intro path isPrim never
        rw [PrimTable.edited, tree.prim_removeSubtree]
        cases outside : path.liesUnder top with
        | true => rfl
        | false =>
            apply reflects.prim_blank path isPrim
            intro prim last
            exact never prim (storedLast_concat_remove.mpr ⟨outside, last⟩)
      · intro path
        rw [PrimTable.edited, tree.contains_removeSubtree, reflects.contains,
          storedUnder_concat_remove]
        tauto

theorem reflects_afterEdits (history : List Edit) : (afterEdits history).Reflects history := by
  -- from the end, as a history is read
  induction history using List.reverseRecOn with
  | nil => exact .empty
  | append_singleton history edit induction =>
      rw [afterEdits, List.foldl_append]
      exact induction.edited (isTree_afterEdits history) edit

/-! ## The order of removals -/

def Agrees (table other : PrimTable) : Prop :=
  ∀ path, table.prim path = other.prim path ∧
    (table.contains path = true ↔ other.contains path = true)

namespace Agrees

variable {other : PrimTable}

theorem refl (table : PrimTable) : table.Agrees table := fun _ => ⟨rfl, Iff.rfl⟩

theorem trans {third : PrimTable} (first : table.Agrees other) (second : other.Agrees third) :
    table.Agrees third := fun path =>
  ⟨(first path).1.trans (second path).1, (first path).2.trans (second path).2⟩

theorem edited (agrees : table.Agrees other) (tree : table.IsTree) (otherTree : other.IsTree)
    (edit : Edit) : (table.edited edit).Agrees (other.edited edit) := by
  intro path
  cases edit with
  | store lower prim =>
      simp only [PrimTable.edited, tree.prim_inserted, otherTree.prim_inserted,
        tree.contains_inserted, otherTree.contains_inserted, (agrees path).1, (agrees path).2,
        and_self]
  | remove top =>
      simp only [PrimTable.edited, tree.prim_removeSubtree, otherTree.prim_removeSubtree,
        tree.contains_removeSubtree, otherTree.contains_removeSubtree, (agrees path).1,
        (agrees path).2, and_self]

theorem foldl_edited (agrees : table.Agrees other) (tree : table.IsTree)
    (otherTree : other.IsTree) (edits : List Edit) :
    (edits.foldl PrimTable.edited table).Agrees (edits.foldl PrimTable.edited other) := by
  induction edits generalizing table other with
  | nil => exact agrees
  | cons edit edits induction =>
      exact induction (agrees.edited tree otherTree edit) (tree.edited edit) (otherTree.edited edit)

theorem swap_removals (tree : table.IsTree) (first second : Path) :
    ((table.edited (.remove first)).edited (.remove second)).Agrees
      ((table.edited (.remove second)).edited (.remove first)) := by
  intro path
  have firstTree := tree.removeSubtree first
  have secondTree := tree.removeSubtree second
  constructor
  · simp only [PrimTable.edited, tree.prim_removeSubtree, firstTree.prim_removeSubtree,
      secondTree.prim_removeSubtree]
    cases path.liesUnder first <;> cases path.liesUnder second <;> rfl
  · simp only [PrimTable.edited, tree.contains_removeSubtree, firstTree.contains_removeSubtree,
      secondTree.contains_removeSubtree]
    tauto

theorem removals {paths reordered : List Path} (perm : paths.Perm reordered)
    (tree : table.IsTree) :
    ((paths.map Edit.remove).foldl PrimTable.edited table).Agrees
      ((reordered.map Edit.remove).foldl PrimTable.edited table) := by
  induction perm generalizing table with
  | nil => exact refl table
  | cons path _ induction => exact induction (tree.edited (.remove path))
  | swap first second rest =>
      exact (swap_removals tree second first).foldl_edited
        ((tree.edited _).edited _) ((tree.edited _).edited _) _
  | trans _ _ first second => exact (first tree).trans (second tree)

end Agrees

end LayeredScene.PrimTable
