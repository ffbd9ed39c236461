import LayeredScene.Proofs.Network.Layers
import LayeredScene.Proofs.Scene.TableHistory

/-! # Prims stored in an index

What an index of stored prims shows can be read off the calls that were made on it. Each call is a
few single edits, one for every entry it comes with.
-/

namespace LayeredScene

inductive SceneCall
  | add (entries : PrimEntries)
  | remove (paths : List Path)

def SceneCall.edits : SceneCall → List PrimTable.Edit
  | .add entries => entries.map fun entry => .store entry.1 entry.2
  | .remove paths => paths.map .remove

def SceneCall.announcement (table : PrimTable) : SceneCall → Batch
  | .add entries => announced entries
  | .remove paths => .removed (table.removeAll paths).2

namespace PrimTable

theorem insertAll_eq (table : PrimTable) (entries : PrimEntries) :
    (table.insertAll entries).1 = (SceneCall.add entries).edits.foldl edited table := by
  rw [SceneCall.edits, List.foldl_map]
  exact (List.foldl_hom Prod.fst fun _ _ => rfl).symm

theorem removeAll_eq (table : PrimTable) (paths : List Path) :
    (table.removeAll paths).1 = (SceneCall.remove paths).edits.foldl edited table := by
  rw [SceneCall.edits, List.foldl_map]
  exact (List.foldl_hom Prod.fst fun _ _ => rfl).symm

theorem IsTree.removeAll {table : PrimTable} (tree : table.IsTree) (paths : List Path) :
    (table.removeAll paths).1.IsTree := by
  rw [removeAll_eq]
  exact tree.foldl_edited _

theorem IsTree.prim_insertAll {table : PrimTable} (tree : table.IsTree) {entries : PrimEntries}
    {path : Path} (elsewhere : ∀ entry ∈ entries, path ≠ entry.1) :
    (table.insertAll entries).1.prim path = table.prim path := by
  rw [insertAll_eq, SceneCall.edits, List.foldl_map]
  induction entries generalizing table with
  | nil => rfl
  | cons entry entries induction =>
      rw [List.foldl_cons, induction (tree.edited (.store entry.1 entry.2)) fun other member =>
        elsewhere other (List.mem_cons_of_mem _ member), PrimTable.edited, tree.prim_inserted, if_neg]
      rintro ⟨_, same⟩
      exact elsewhere entry List.mem_cons_self same

theorem removeSubtree_reports {table : PrimTable} {path : Path} (notRoot : path ≠ .root) :
    (table.removeSubtree path).2 = table.contains path := by
  rw [removeSubtree, Path.isRoot_eq_false.mpr notRoot, if_neg Bool.false_ne_true]
  cases stored : table.contains path with
  | true => rw [if_pos rfl]
  | false => rw [if_neg Bool.false_ne_true]

theorem removeAll_concat (table : PrimTable) (paths : List Path) (path : Path) :
    table.removeAll (paths ++ [path]) =
      (((table.removeAll paths).1.removeSubtree path).1,
        if ((table.removeAll paths).1.removeSubtree path).2 then (table.removeAll paths).2 ++ [path]
        else (table.removeAll paths).2) := by
  rw [removeAll, List.foldl_append]
  rfl

theorem one_lt_length {table : PrimTable} {path : Path}
    (rootStored : table.contains .root = true) (stored : table.contains path = true)
    (notRoot : path ≠ .root) : 1 < table.entries.length := by
  rw [contains_iff_mem, keys] at rootStored stored
  rcases table with ⟨_ | ⟨entry, _ | ⟨other, rest⟩⟩⟩
  · cases stored
  · exact absurd ((List.mem_singleton.mp stored).trans (List.mem_singleton.mp rootStored).symm)
      notRoot
  · exact Nat.succ_lt_succ (Nat.succ_pos _)

theorem IsTree.removed_of_changed {table : PrimTable} (tree : table.IsTree) {path last : Path}
    (changed : (table.removeSubtree last).1.prim path ≠ table.prim path) :
    path.liesUnder last = true ∧
      ((table.removeSubtree last).2 = true ∨ last = .root ∧ path = .root) := by
  rw [tree.prim_removeSubtree] at changed
  cases under : path.liesUnder last with
  | false => simp [under] at changed
  | true =>
      have stored : table.contains path = true := by
        rw [← Bool.not_eq_false]
        intro absent
        exact changed (by rw [under, if_pos rfl, prim_of_absent absent])
      refine ⟨rfl, ?_⟩
      by_cases isRoot : last = .root
      · subst isRoot
        by_cases same : path = .root
        · exact .inr ⟨rfl, same⟩
        · left
          have several := one_lt_length tree.root_stored stored same
          exact decide_eq_true several
      · rw [removeSubtree_reports isRoot]
        exact .inl (tree.contains_of_liesUnder stored under)

theorem IsTree.reported_of_changed {α : Type} {covers : Path → Prop} {excused : Prop}
    {table : PrimTable} {paths : List Path} (tree : table.IsTree) (look : PrimTable → α)
    (step : ∀ smaller last, smaller.IsTree → last ∈ paths →
      look (smaller.removeSubtree last).1 ≠ look smaller →
        (smaller.removeSubtree last).2 = true ∧ covers last ∨ excused)
    (changed : look (table.removeAll paths).1 ≠ look table) :
    (∃ top ∈ (table.removeAll paths).2, covers top) ∨ excused := by
  induction paths using List.reverseRecOn with
  | nil => exact absurd rfl changed
  | append_singleton paths last induction =>
      rw [removeAll_concat] at changed ⊢
      by_cases kept : look ((table.removeAll paths).1.removeSubtree last).1 =
          look (table.removeAll paths).1
      · rw [kept] at changed
        have sofar := induction
          (fun smaller other isTree member => step smaller other isTree (by simp [member])) changed
        rcases sofar with ⟨top, member, covered⟩ | excuse
        · refine .inl ⟨top, ?_, covered⟩
          split
          · exact List.mem_append_left _ member
          · exact member
        · exact .inr excuse
      · rcases step _ last (tree.removeAll paths) (by simp) kept with ⟨reported, covered⟩ | excuse
        · exact .inl ⟨last, by simp [reported], covered⟩
        · exact .inr excuse

theorem IsTree.prim_removeAll_changed {table : PrimTable} (tree : table.IsTree) {path : Path}
    {paths : List Path}
    (changed : (table.removeAll paths).1.prim path ≠ table.prim path) :
    (∃ top ∈ (table.removeAll paths).2, path.liesUnder top = true) ∨
      path = .root ∧ .root ∈ paths ∧ .root ∉ (table.removeAll paths).2 := by
  -- the root lies under itself, so that it is enough to find it among the removed paths
  suffices either : (∃ top ∈ (table.removeAll paths).2, path.liesUnder top = true) ∨
      path = .root ∧ .root ∈ paths by
    rcases either with covered | ⟨rfl, member⟩
    · exact .inl covered
    · by_cases reported : .root ∈ (table.removeAll paths).2
      · exact .inl ⟨.root, reported, by decide⟩
      · exact .inr ⟨rfl, member, reported⟩
  apply tree.reported_of_changed (·.prim path) _ changed
  intro smaller last isTree member changed
  rcases isTree.removed_of_changed changed with ⟨under, reported | ⟨rfl, isRoot⟩⟩
  · exact .inl ⟨reported, under⟩
  · exact .inr ⟨isRoot, member⟩

theorem IsTree.prim_removeAll {table : PrimTable} (tree : table.IsTree) {paths : List Path}
    (notRoot : .root ∉ paths) :
    (∀ top ∈ (table.removeAll paths).2, top ≠ .empty ∧ top ≠ .root) ∧
      ∀ path, (table.removeAll paths).1.prim path =
        if ∃ top ∈ (table.removeAll paths).2, path.liesUnder top = true then .blank
        else table.prim path := by
  induction paths using List.reverseRecOn with
  | nil =>
      refine ⟨fun top member => absurd member List.not_mem_nil, fun path => ?_⟩
      rw [if_neg]
      · rfl
      · rintro ⟨top, member, _⟩
        cases member
  | append_singleton paths last induction =>
      have lastNotRoot : last ≠ .root := by
        rintro rfl
        exact notRoot (by simp)
      have sofar := induction fun member => notRoot (List.mem_append_left _ member)
      have smaller := tree.removeAll paths
      rw [removeAll_concat, removeSubtree_reports lastNotRoot]
      cases stored : (table.removeAll paths).1.contains last with
      | false =>
          rw [removeSubtree_of_absent stored (Path.isRoot_eq_false.mpr lastNotRoot)]
          exact sofar
      | true =>
          rw [if_pos rfl]
          constructor
          · intro top member
            rcases List.mem_append.mp member with earlier | isLast
            · exact sofar.1 top earlier
            · rw [List.mem_singleton.mp isLast]
              exact ⟨smaller.ne_empty stored, lastNotRoot⟩
          · intro path
            rw [smaller.prim_removeSubtree, sofar.2]
            cases under : path.liesUnder last with
            | true => simp [under]
            | false => simp [under, or_and_right, exists_or]

end PrimTable

namespace Network

variable {network : Network} {number : Nat} {table : PrimTable}

/-- An index that is there stores a table. -/
structure Stores (network : Network) (number : Nat) (table : PrimTable) : Prop where
  inside : number < network.nodes.size
  index : (network.node number).index = .retained table

theorem Stores.addRetained (network : Network) :
    network.addRetained.2.Stores network.addRetained.1 .empty where
  inside := by simp [Network.addRetained, addIndex]
  index := by simp [Network.addRetained, addIndex, node]

theorem Stores.of_sameWiring {after : Network} (stores : network.Stores number table)
    (same : network.SameWiring after) : after.Stores number table where
  inside := by
    rw [same.nodes]
    exact stores.inside
  index := by
    rw [same.node]
    exact stores.index

theorem Stores.scene (stores : network.Stores number table) :
    network.scene number = table.scene := by
  rcases exists_levels stores.inside with ⟨levels, enough⟩
  rw [Network.scene, enough, sceneThrough, stores.index]

theorem Stores.ne_of_merging (stores : network.Stores number table) {other : Nat}
    {inputs : List Nat} (index : (network.node other).index = .merging inputs) :
    number ≠ other := by
  intro same
  have stored := stores.index
  rw [same, index] at stored
  cases stored

/-- An index stores another table, all else is as before, and nobody has been told yet. -/
structure Restocked (before after : Network) (number : Nat) (table : PrimTable) : Prop where
  shape : before.SameShape after
  stores : after.Stores number table
  kept : ∀ other, other ≠ number → after.node other = before.node other
  unheard : after.heard = before.heard

theorem Stores.restocked (stores : network.Stores number table) {after : Network}
    {other : PrimTable} (same : (network.setIndex number (.retained other)).SameWiring after)
    (unheard : after.heard = network.heard) : network.Restocked after number other := by
  have inputs : (Index.retained other).inputs = (network.node number).index.inputs := by
    rw [stores.index]
    rfl
  rcases replaced_of_setIndex stores.inside inputs same with ⟨shape, inside, index⟩
  refine ⟨shape, ⟨inside, index⟩, ?_, unheard⟩
  intro another different
  rw [same.node, setIndex, node_changeNode _ _ _ stores.inside, if_neg different]

theorem Stores.addPrims (stores : network.Stores number table) (entries : PrimEntries) :
    ∃ after, network.addPrims number entries = after.send number (announced entries) ∧
      network.Restocked after number (table.insertAll entries).1 := by
  refine ⟨(network.setIndex number (.retained (table.insertAll entries).1)).report
    (table.insertAll entries).2, ?_, stores.restocked (sameWiring_report _ _) rfl⟩
  simp only [Network.addPrims, stores.index]

theorem Stores.removePrims (stores : network.Stores number table) (paths : List Path) :
    ∃ after, network.removePrims number paths =
        after.send number (.removed (table.removeAll paths).2) ∧
      network.Restocked after number (table.removeAll paths).1 := by
  refine ⟨network.setIndex number (.retained (table.removeAll paths).1), ?_,
    stores.restocked (.refl _) rfl⟩
  simp only [Network.removePrims, stores.index]

def called (number : Nat) (network : Network) : SceneCall → Network
  | .add entries => network.addPrims number entries
  | .remove paths => network.removePrims number paths

theorem Stores.sends_called (stores : network.Stores number table) (call : SceneCall) :
    ∃ changed, network.called number call = changed.send number (call.announcement table) ∧
      network.Restocked changed number (call.edits.foldl PrimTable.edited table) := by
  cases call with
  | add entries =>
      rw [← PrimTable.insertAll_eq]
      exact stores.addPrims entries
  | remove paths =>
      rw [← PrimTable.removeAll_eq]
      exact stores.removePrims paths

def afterCalls (network : Network) (number : Nat) (calls : List SceneCall) : Network :=
  calls.foldl (called number) network

theorem Stores.called (stores : network.Stores number table) (call : SceneCall) :
    (network.called number call).Stores number (call.edits.foldl PrimTable.edited table) := by
  rcases stores.sends_called call with ⟨after, sends, restocked⟩
  rw [sends]
  exact restocked.stores.of_sameWiring (sameWiring_send after number _)

theorem Stores.sameShape_called (stores : network.Stores number table) (call : SceneCall) :
    network.SameShape (network.called number call) ∧
      ∀ other, other ≠ number → (network.called number call).node other = network.node other := by
  rcases stores.sends_called call with ⟨after, sends, restocked⟩
  have same := sameWiring_send after number (call.announcement table)
  rw [sends]
  refine ⟨restocked.shape.trans same.sameShape, fun other different => ?_⟩
  rw [same.node, restocked.kept other different]

theorem Stores.called_other (stores : network.Stores number table) {other : Nat}
    {otherTable : PrimTable} (otherStores : network.Stores other otherTable)
    (different : other ≠ number) (call : SceneCall) :
    (network.called number call).Stores other otherTable := by
  have called := stores.sameShape_called call
  constructor
  · exact Nat.lt_of_lt_of_eq otherStores.inside called.1.levels.symm
  · rw [called.2 other different]
    exact otherStores.index

theorem Stores.afterCalls (stores : network.Stores number table) (calls : List SceneCall) :
    (network.afterCalls number calls).Stores number
      ((calls.flatMap SceneCall.edits).foldl PrimTable.edited table) := by
  induction calls generalizing network table with
  | nil => exact stores
  | cons call calls induction =>
      rw [List.flatMap_cons, List.foldl_append]
      exact induction (stores.called call)

/-- An index that starts without prims shows what the calls on it say: each prim is the one added
last at its path, unless something above it was removed since, and a path is there if something was
added at or under it since anything above it was last removed. The order in which one call removes
paths makes no difference, whatever is called before and after. -/
theorem afterCalls_reflects (stores : network.Stores number .empty) :
    (∀ calls, ∃ table, (network.afterCalls number calls).Stores number table ∧
      (network.afterCalls number calls).scene number = table.scene ∧
      table.Reflects (calls.flatMap SceneCall.edits)) ∧
    ∀ earlier later paths reordered, paths.Perm reordered → ∃ table other,
      (network.afterCalls number (earlier ++ .remove paths :: later)).Stores number table ∧
      (network.afterCalls number (earlier ++ .remove reordered :: later)).Stores number other ∧
      table.Agrees other := by
  constructor
  · intro calls
    have after := stores.afterCalls calls
    exact ⟨_, after, after.scene, PrimTable.reflects_afterEdits _⟩
  · intro earlier later paths reordered perm
    refine ⟨_, _, stores.afterCalls _, stores.afterCalls _, ?_⟩
    have tree := PrimTable.isTree_afterEdits (earlier.flatMap SceneCall.edits)
    simp only [List.flatMap_append, List.flatMap_cons, List.foldl_append, SceneCall.edits]
    exact (PrimTable.Agrees.removals perm tree).foldl_edited (tree.foldl_edited _)
      (tree.foldl_edited _) _

theorem afterCalls_reflects_removal :
    ∃ table, (empty.addRetained.2.afterCalls 0
        [.add [(.absolute ["a", "b"] none, ⟨"Mesh", none⟩)],
          .remove [.absolute ["a", "b"] none]]).Stores 0 table ∧
      table.prim (.absolute ["a", "b"] none) = .blank ∧
      table.contains (.absolute ["a"] none) = true := by
  have stores : empty.addRetained.2.Stores 0 .empty := .addRetained empty
  rcases (afterCalls_reflects stores).1 _ with ⟨table, after, _, reflects⟩
  refine ⟨table, after, ?_, ?_⟩
  · apply reflects.prim_blank _ rfl
    intro prim last
    exact absurd (PrimTable.storedLast_concat_remove.mp last).1 (by decide)
  · apply (reflects.contains _).mpr
    refine .inr ⟨.absolute ["a", "b"] none, ⟨"Mesh", none⟩, rfl, by decide, [], _, rfl, ?_⟩
    intro next member
    rw [List.mem_singleton.mp member]
    decide

end Network

end LayeredScene
