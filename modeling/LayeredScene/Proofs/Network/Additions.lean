import LayeredScene.Proofs.Network.Removals
import LayeredScene.Proofs.Network.ServedPrims

/-! # What additions announce

Prims that are added are announced entry by entry, as they were given. Those at prim paths are there
then, each with the type it was announced with last. A table refuses what is at other paths, but the
index does not ask it: these entries are announced like all others, and there is nothing at their
paths.
-/

namespace LayeredScene

namespace PrimTable

variable {table : PrimTable} {earlier later entries : PrimEntries} {path : Path} {prim : Prim}

theorem insertAll_append (table : PrimTable) (earlier later : PrimEntries) :
    (table.insertAll (earlier ++ later)).1 = ((table.insertAll earlier).1.insertAll later).1 := by
  simp only [insertAll_eq, SceneCall.edits, List.map_append, List.foldl_append]

theorem insertAll_cons (table : PrimTable) (entry : Path × Prim) (entries : PrimEntries) :
    (table.insertAll (entry :: entries)).1 =
      ((table.inserted entry.1 entry.2).insertAll entries).1 :=
  insertAll_append table [entry] entries

namespace IsTree

theorem insertAll (tree : table.IsTree) (entries : PrimEntries) :
    (table.insertAll entries).1.IsTree := by
  rw [insertAll_eq]
  exact tree.foldl_edited _

theorem contains_insertAll (tree : table.IsTree) (entries : PrimEntries) (path : Path) :
    (table.insertAll entries).1.contains path = true ↔
      table.contains path = true ∨
        ∃ entry ∈ entries, entry.1.isPrim = true ∧ entry.1.liesUnder path = true := by
  induction entries generalizing table with
  | nil => simp [PrimTable.insertAll]
  | cons entry entries induction =>
      rw [insertAll_cons, induction (tree.inserted entry.1 entry.2), tree.contains_inserted,
        List.exists_mem_cons_iff, or_assoc]

theorem contains_added_iff (tree : table.IsTree) {entry : Path × Prim} (member : entry ∈ entries) :
    (table.insertAll entries).1.contains entry.1 = true ↔ entry.1.isPrim = true := by
  constructor
  · exact (tree.insertAll entries).isPrim entry.1
  · intro isPrim
    have under := Path.liesUnder_self (Path.ne_empty_of_isPrim isPrim)
    exact (tree.contains_insertAll entries entry.1).mpr (.inr ⟨entry, member, isPrim, under⟩)

theorem prim_added (tree : table.IsTree) (isLast : ∀ entry ∈ later, path ≠ entry.1) :
    (table.insertAll (earlier ++ (path, prim) :: later)).1.prim path =
      if path.isPrim then prim else .blank := by
  have before := tree.insertAll earlier
  rw [insertAll_append, insertAll_cons, (before.inserted path prim).prim_insertAll isLast,
    before.prim_inserted]
  cases isPrim : path.isPrim with
  | true => simp
  | false =>
      have absent : (table.insertAll earlier).1.contains path = false := by
        apply Bool.eq_false_iff.mpr
        intro stored
        rw [before.isPrim path stored] at isPrim
        cases isPrim
      simp [prim_of_absent absent]

end IsTree

end PrimTable

namespace Network

variable {network before changed : Network} {listener number : Nat}

/-- A listener hears that some prims were added. Each of them is there afterwards if its path is a
prim path, and the prims there have the types that were announced last for them. At other paths
there is nothing. -/
structure AnnouncesAdded (before after : Network) (listener number : Nat)
    (entries : List (Path × Token)) : Prop where
  heard : after.heardFrom listener number =
    before.heardFrom listener number ++ if entries.isEmpty then [] else [.added entries]
  listed : ∀ entry ∈ entries,
    (after.scene number).lists entry.1 = true ↔ entry.1.isPrim = true
  shown : ∀ earlier path type later, entries = earlier ++ (path, type) :: later →
    (∀ entry ∈ later, path ≠ entry.1) →
    ((after.scene number).prim path).type = if path.isPrim then type else ""

theorem Watched.announcesAdded {table : PrimTable} (watched : before.Watched listener number [])
    (shape : before.SameShape changed) (unheard : changed.heard = before.heard)
    (inside : number < changed.levels) (tree : table.IsTree) (entries : PrimEntries)
    (scene : changed.scene number = (table.insertAll entries).1.scene) :
    before.AnnouncesAdded (changed.send number (announced entries)) listener number
      (entries.map fun entry => (entry.1, entry.2.type)) := by
  have shown : (changed.send number (announced entries)).scene number =
      (table.insertAll entries).1.scene := by
    rw [(sameWiring_send changed number _).scene, scene]
  rcases watched.layered with ⟨rank, layered⟩
  constructor
  · have listens : .listener listener ∈ changed.liveObservers number := by
      rw [shape.liveObservers]
      exact watched.listens
    rw [(layered.of_sameShape shape).heardFrom_send_self inside listens rfl,
      heardFrom_of_unheard unheard]
    rfl
  · intro entry member
    rcases List.mem_map.mp member with ⟨added, isAdded, rfl⟩
    rw [shown, (tree.insertAll entries).lists_iff]
    exact tree.contains_added_iff isAdded
  · intro earlier path type later split isLast
    rcases List.map_eq_append_iff.mp split with ⟨former, rest, rfl, _, atRest⟩
    rcases List.map_eq_cons_iff.mp atRest with ⟨⟨added, prim⟩, others, rfl, isAdded, rfl⟩
    cases isAdded
    have lastAdded : ∀ entry ∈ others, added ≠ entry.1 := fun entry member =>
      isLast _ (List.mem_map_of_mem member)
    have atPath : ((changed.send number _).scene number).prim added = _ :=
      (congrArg (Scene.prim · added) shown).trans (tree.prim_added lastAdded)
    rw [atPath]
    cases added.isPrim <;> rfl

/-- Whatever is added in whichever way is announced, also what is refused. -/
theorem added_announced (watched : network.Watched listener number []) :
    (∀ history, network.Stores number (.afterEdits history) → ∀ entries,
      network.AnnouncesAdded (network.addPrims number entries) listener number
        (entries.map fun entry => (entry.1, entry.2.type))) ∧
    ∀ history, network.Serves number (.afterEdits history) →
      (∀ entries, network.AnnouncesAdded (network.addPrims number entries) listener number
        (entries.map fun entry => (entry.1, entry.2.type))) ∧
      ∀ path type delegate,
        network.AnnouncesAdded (network.addServed number path type delegate) listener number
          [(path, type)] := by
  constructor
  · intro history stores entries
    rcases stores.addPrims entries with ⟨changed, sends, restocked⟩
    rw [sends]
    exact watched.announcesAdded restocked.shape restocked.unheard restocked.stores.inside
      (PrimTable.isTree_afterEdits history) entries restocked.stores.scene
  · intro history serves
    have tree := (Serving.inStep_afterEdits history).tree
    constructor
    · intro entries
      rcases serves.addPrims entries with ⟨changed, sends, reserved⟩
      rw [sends]
      exact watched.announcesAdded reserved.shape reserved.unheard reserved.serves.inside tree
        entries reserved.serves.scene
    · intro path type delegate
      rcases serves.addServed path type delegate with ⟨changed, sends, reserved⟩
      rw [sends]
      exact watched.announcesAdded reserved.shape reserved.unheard reserved.serves.inside tree
        [(path, _)] reserved.serves.scene

def heardServed : Network := (empty.addDelegated.2.addListener .plain).2.observe 0 (.listener 0)

theorem watched_heardServed : heardServed.Watched 0 0 [] where
  layered := by
    refine ⟨id, Layered.observe (.addListener Layered.empty.addDelegated .plain) (by decide) ?_⟩
    intro index isIndex
    cases isIndex
  stacked := trivial
  listens := by decide

def mixedAdditions : PrimEntries :=
  [(.absolute ["a"] none, ⟨"mesh", none⟩), (.absolute ["a"] (some "p"), ⟨"mesh", none⟩),
    (.absolute ["a"] none, ⟨"scope", none⟩)]

theorem added_announced_mixedAdditions :
    (((heardStore.addPrims 0 mixedAdditions).scene 0).prim (.absolute ["a"] none)).type = "scope" ∧
      ((heardStore.addPrims 0 mixedAdditions).scene 0).lists (.absolute ["a"] none) = true ∧
      (((heardServed.addServed 0 (.absolute ["a"] none) "mesh" 0).scene 0).prim
        (.absolute ["a"] none)).type = "mesh" := by
  have serves : heardServed.Serves 0 (.afterEdits []) := ⟨by decide, rfl⟩
  have ofStore := (added_announced watched_heardStore).1 [] stores_heardStore mixedAdditions
  have ofServed := ((added_announced watched_heardServed).2 [] serves).2 (.absolute ["a"] none)
    "mesh" 0
  refine ⟨?_, ?_, ?_⟩
  · exact ofStore.shown [(.absolute ["a"] none, "mesh"), (.absolute ["a"] (some "p"), "mesh")]
      (.absolute ["a"] none) "scope" [] rfl (by simp)
  · exact (ofStore.listed (.absolute ["a"] none, "scope") (by decide)).mpr rfl
  · exact ofServed.shown [] (.absolute ["a"] none) "mesh" [] rfl (by simp)

/-- Prims at property paths are announced, and there is nothing. -/
theorem not_stored_announced :
    ((heardStore.addPrims 0 mixedAdditions).heardFrom 0 0 = heardStore.heardFrom 0 0 ++
        [.added [(.absolute ["a"] none, "mesh"), (.absolute ["a"] (some "p"), "mesh"),
          (.absolute ["a"] none, "scope")]] ∧
      ((heardStore.addPrims 0 mixedAdditions).scene 0).lists (.absolute ["a"] (some "p")) = false ∧
      (((heardStore.addPrims 0 mixedAdditions).scene 0).prim
        (.absolute ["a"] (some "p"))).type = "") ∧
    ((heardServed.addServed 0 (.absolute ["a"] (some "p")) "mesh" 0).heardFrom 0 0 =
        heardServed.heardFrom 0 0 ++ [.added [(.absolute ["a"] (some "p"), "mesh")]] ∧
      ((heardServed.addServed 0 (.absolute ["a"] (some "p")) "mesh" 0).scene 0).lists
        (.absolute ["a"] (some "p")) = false ∧
      (((heardServed.addServed 0 (.absolute ["a"] (some "p")) "mesh" 0).scene 0).prim
        (.absolute ["a"] (some "p"))).type = "") := by
  decide +kernel

end Network

end LayeredScene
