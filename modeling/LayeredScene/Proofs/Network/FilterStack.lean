import LayeredScene.Proofs.Network.Sent
import LayeredScene.Proofs.Network.StoredPrims

/-! # Filters on top of one another

Filters that stand on one another over an index are a stack. What the top of a stack shows is what
its filters make of the scene at the bottom one after the other, and what it sends is what they make
of the batches that the index at the bottom sends. So whoever listens at the top can follow the
types of its prims if those at the bottom could be followed.
-/

namespace LayeredScene

abbrev FilterStack := List (Nat × Filter)

namespace FilterStack

def top (bottom : Nat) : FilterStack → Nat
  | [] => bottom
  | (number, _) :: above => top number above

def filters (stack : FilterStack) : List Filter := stack.map (·.2)

end FilterStack

namespace Network

variable {network before changed start finish : Network} {rank : Nat → Nat}
variable {bottom listener sender : Nat} {stack : FilterStack} {batch : Batch}

def types (network : Network) (number : Nat) : TypeMap := (network.scene number).types

/-- Filters stand on one another over an index, and each is told by the one below it. -/
def Stacked (network : Network) : (bottom : Nat) → FilterStack → Prop
  | _, [] => True
  | bottom, (number, filter) :: above =>
      (network.node number).index = .filter bottom filter ∧
        .index number ∈ network.liveObservers bottom ∧ network.Stacked number above

theorem Stacked.index {layer : Nat × Filter} (stacked : network.Stacked bottom stack)
    (member : layer ∈ stack) : ∃ below, (network.node layer.1).index = .filter below layer.2 := by
  induction stack generalizing bottom with
  | nil => cases member
  | cons first above induction =>
      rcases List.mem_cons.mp member with rfl | member
      · exact ⟨bottom, stacked.1⟩
      · exact induction stacked.2.2 member

theorem Stacked.ne_of_stores {stack : FilterStack} (stacked : network.Stacked bottom stack)
    (stores : network.Stores bottom table) {layer : Nat × Filter} (member : layer ∈ stack) :
    layer.1 ≠ bottom := by
  rintro rfl
  rcases stacked.index member with ⟨below, index⟩
  cases stores.index.symm.trans index

theorem Stacked.of_sameShape (stacked : before.Stacked bottom stack)
    (same : before.SameShape changed)
    (kept : ∀ layer ∈ stack, (changed.node layer.1).index = (before.node layer.1).index) :
    changed.Stacked bottom stack := by
  induction stack generalizing bottom with
  | nil => trivial
  | cons layer above induction =>
      rcases stacked with ⟨index, observes, rest⟩
      refine ⟨?_, ?_, induction rest fun other member => kept other (List.mem_cons_of_mem _ member)⟩
      · rw [kept layer List.mem_cons_self]
        exact index
      · rw [same.liveObservers]
        exact observes

namespace Layered

theorem types_top (layered : network.Layered rank) (stacked : network.Stacked bottom stack) :
    network.types (stack.top bottom) = Filter.shownByAll stack.filters (network.types bottom) := by
  induction stack generalizing bottom with
  | nil => rfl
  | cons layer above induction =>
      rcases stacked with ⟨index, _, rest⟩
      have shown : network.types layer.1 = layer.2.shownTypes (network.types bottom) := by
        rw [types, layered.scene_filter index]
        exact layer.2.types_scene layer.1 bottom (network.scene bottom)
      exact (induction rest).trans
        (congrArg (Filter.shownByAll (FilterStack.filters above)) shown)

theorem sent_top (layered : network.Layered rank) (stacked : network.Stacked bottom stack)
    (elsewhere : ∀ layer ∈ stack, sender ≠ layer.1)
    (noRename : ∀ said ∈ network.sent bottom sender batch, said.isRename = false) :
    network.sent (stack.top bottom) sender batch =
        Filter.forwardedByAll stack.filters (network.sent bottom sender batch) ∧
      ∀ said ∈ network.sent (stack.top bottom) sender batch, said.isRename = false := by
  induction stack generalizing bottom with
  | nil => exact ⟨rfl, noRename⟩
  | cons layer above induction =>
      rcases stacked with ⟨index, observes, rest⟩
      have passed : network.sent layer.1 sender batch =
          ((network.sent bottom sender batch).map layer.2.forward).filter (!·.isEmpty) :=
        layered.sentThrough_filter index observes (elsewhere layer List.mem_cons_self)
          (Nat.le_add_right _ _) noRename
      -- no filter makes a rename of another batch, so the next layer is told of none either
      have stillNoRename : ∀ said ∈ network.sent layer.1 sender batch, said.isRename = false := by
        intro said member
        rw [passed] at member
        rcases List.mem_map.mp (List.mem_filter.mp member).1 with ⟨told, isTold, rfl⟩
        rw [Filter.isRename_forward]
        exact noRename told isTold
      have above := induction rest
        (fun higher member => elsewhere higher (List.mem_cons_of_mem _ member)) stillNoRename
      rw [passed] at above
      exact above

end Layered

/-! ## Changes -/

def sendAll (network : Network) (sends : List (Nat × Batch)) : Network :=
  sends.foldl (fun network send => network.send send.1 send.2) network

def sentInAll (network : Network) (number : Nat) (sends : List (Nat × Batch)) : List Batch :=
  sends.flatMap fun send => network.sent number send.1 send.2

/-- A listener listens at the top of a stack in a network without cycles. -/
structure Watched (network : Network) (listener bottom : Nat) (stack : FilterStack) : Prop where
  layered : ∃ rank, network.Layered rank
  stacked : network.Stacked bottom stack
  listens : .listener listener ∈ network.liveObservers (stack.top bottom)

/-- After a change of a network nothing has been heard of it yet. The batches that then go out from
below a stack, or from beside it, make the index at its bottom send what the change of its types can
be followed by. -/
structure FaithfulChange (before changed : Network) (bottom : Nat) (stack : FilterStack)
    (sends : List (Nat × Batch)) : Prop where
  unheard : changed.heard = before.heard
  elsewhere : ∀ send ∈ sends, ∀ layer ∈ stack, send.1 ≠ layer.1
  noRename : ∀ said ∈ changed.sentInAll bottom sends, said.isRename = false
  faithful : (before.types bottom).replayAll (changed.sentInAll bottom sends) =
    changed.types bottom

/-- Changes that can be followed at the bottom of a stack, whose filters stay as they are. -/
inductive FaithfulRun (listener bottom : Nat) (stack : FilterStack) : Network → Network → Prop
  | start {network : Network} (watched : network.Watched listener bottom stack) :
      FaithfulRun listener bottom stack network network
  | change {start before changed : Network} {sends : List (Nat × Batch)}
      (run : FaithfulRun listener bottom stack start before)
      (watched : changed.Watched listener bottom stack)
      (change : FaithfulChange before changed bottom stack sends) :
      FaithfulRun listener bottom stack start (changed.sendAll sends)

theorem sameWiring_sendAll (network : Network) (sends : List (Nat × Batch)) :
    network.SameWiring (network.sendAll sends) :=
  .foldl (fun (network : Network) (send : Nat × Batch) => sameWiring_send network send.1 send.2)
    sends network

theorem Watched.of_sameShape (watched : before.Watched listener bottom stack)
    (same : before.SameShape changed)
    (kept : ∀ layer ∈ stack, (changed.node layer.1).index = (before.node layer.1).index) :
    changed.Watched listener bottom stack where
  layered := watched.layered.imp fun _ layered => layered.of_sameShape same
  stacked := watched.stacked.of_sameShape same kept
  listens := by
    rw [same.liveObservers]
    exact watched.listens

theorem FaithfulRun.watched (run : FaithfulRun listener bottom stack start finish) :
    finish.Watched listener bottom stack := by
  cases run with
  | start watched => exact watched
  | @change before changed sends run watched change =>
      have same := sameWiring_sendAll changed sends
      exact watched.of_sameShape same.sameShape fun layer _ => by rw [same.node]

theorem Watched.heardFrom_sendAll (watched : network.Watched listener bottom stack)
    {sends : List (Nat × Batch)} (elsewhere : ∀ send ∈ sends, ∀ layer ∈ stack, send.1 ≠ layer.1)
    (noRename : ∀ said ∈ network.sentInAll bottom sends, said.isRename = false) :
    (network.sendAll sends).heardFrom listener (stack.top bottom) =
      network.heardFrom listener (stack.top bottom) ++
        Filter.forwardedByAll stack.filters (network.sentInAll bottom sends) := by
  rcases watched.layered with ⟨rank, layered⟩
  rw [sentInAll, Filter.forwardedByAll_flatMap]
  refine heardFrom_foldl
    (fun network send => sameWiring_send network send.1 send.2) ?_ (.refl network)
  intro send member current wired
  have passed := layered.sent_top watched.stacked (elsewhere send member)
    fun said isSaid => noRename said (List.mem_flatMap.mpr ⟨send, member, isSaid⟩)
  rw [← passed.1, Network.send, wired.levels]
  exact layered.heardFrom_sendThrough watched.listens passed.2 wired

/-! ## Stored prims at the bottom -/

theorem types_insertAll {table : PrimTable} (tree : table.IsTree) (entries : PrimEntries)
    (arePrims : ∀ entry ∈ entries, entry.1.isPrim = true) :
    (table.insertAll entries).1.scene.types = table.scene.types.replay (announced entries) := by
  rw [PrimTable.insertAll_eq, announced, TypeMap.replay, List.foldl_map]
  induction entries generalizing table with
  | nil => rfl
  | cons entry entries induction =>
      have first : (table.inserted entry.1 entry.2).scene.types =
          table.scene.types.set (entry.1, entry.2.type) := by
        have isPrim := arePrims entry List.mem_cons_self
        funext path
        simp only [PrimTable.scene, Scene.types, TypeMap.set, tree.prim_inserted, isPrim, true_and]
        split <;> rfl
      rw [List.foldl_cons, ← first]
      exact induction (tree.inserted entry.1 entry.2) fun other member =>
        arePrims other (List.mem_cons_of_mem _ member)

theorem Layered.sent_self (layered : network.Layered rank) (inside : bottom < network.levels)
    (batch : Batch) : network.sent bottom bottom batch = if batch.isEmpty then [] else [batch] := by
  rcases exists_levels inside with ⟨levels, enough⟩
  rw [sent, enough, layered.sentThrough_self]

theorem FaithfulRun.addPrims {table : PrimTable}
    (run : FaithfulRun listener bottom stack start before) (stores : before.Stores bottom table)
    (tree : table.IsTree) {entries : PrimEntries}
    (arePrims : ∀ entry ∈ entries, entry.1.isPrim = true) :
    FaithfulRun listener bottom stack start (before.addPrims bottom entries) := by
  rcases stores.addPrims entries with ⟨changed, sends, restocked⟩
  have apart : ∀ layer ∈ stack, layer.1 ≠ bottom := fun layer member =>
    run.watched.stacked.ne_of_stores stores member
  have watched : changed.Watched listener bottom stack := by
    apply run.watched.of_sameShape restocked.shape
    intro layer member
    rw [restocked.kept layer.1 (apart layer member)]
  have said : changed.sentInAll bottom [(bottom, announced entries)] =
      if (announced entries).isEmpty then [] else [announced entries] := by
    rcases watched.layered with ⟨_, layered⟩
    rw [sentInAll, List.flatMap_singleton, layered.sent_self restocked.stores.inside]
  have isOne : changed.send bottom (announced entries) =
      changed.sendAll [(bottom, announced entries)] := rfl
  rw [sends, isOne]
  refine run.change watched ⟨restocked.unheard, ?_, ?_, ?_⟩
  · intro send member layer inStack
    rw [List.mem_singleton.mp member]
    exact (apart layer inStack).symm
  · rw [said]
    split
    · simp
    · simp [announced, Batch.isRename]
  · rw [said, types, types, stores.scene, restocked.stores.scene,
      types_insertAll tree entries arePrims]
    split
    · rename_i isEmpty
      exact (TypeMap.replay_of_isEmpty _ isEmpty).symm
    · rfl

def filteredTwice : Network :=
  let network := empty.addRetained.2
  let network := (network.addFilter 0 (.paths (.ofPaths [.absolute ["hidden"] none])) true).2
  let network := (network.addFilter 1 (.types ⟨["Mesh"], "", false⟩ true) true).2
  (network.addListener .plain).2.observe 2 (.listener 0)

def mixedPrims : PrimEntries :=
  [(.absolute ["a"] none, ⟨"Xform", none⟩), (.absolute ["a", "b"] none, ⟨"Mesh", none⟩),
    (.absolute ["hidden", "c"] none, ⟨"Xform", none⟩)]

theorem watched_filteredTwice :
    filteredTwice.Watched 0 0
      [(1, .paths (.ofPaths [.absolute ["hidden"] none])),
        (2, .types ⟨["Mesh"], "", false⟩ true)] where
  layered := by
    refine ⟨id, Layered.observe (.addListener ?_ .plain) (by decide) ?_⟩
    · exact (Layered.empty.addRetained.addFilter (by decide) _ true).addFilter (by decide) _ true
    · intro index isIndex
      cases isIndex
  stacked := ⟨rfl, by decide, rfl, by decide, trivial⟩
  listens := by decide

/-! ## Following the top -/

/-- Filters keep faith, however many of them stand on one another and in whatever order: if each
change of the index at the bottom can be followed by what it sends, then following what is heard at
the top leads from the types that were shown there to those that are shown after all changes. -/
theorem FaithfulRun.replay_heardFrom (run : FaithfulRun listener bottom stack start finish) :
    ∃ emitted, finish.heardFrom listener (stack.top bottom) =
        start.heardFrom listener (stack.top bottom) ++ emitted ∧
      (start.types (stack.top bottom)).replayAll emitted = finish.types (stack.top bottom) := by
  induction run with
  | start watched => exact ⟨[], (List.append_nil _).symm, rfl⟩
  | @change before changed sends run watched change induction =>
      rcases induction with ⟨emitted, heardBefore, followed⟩
      rcases run.watched.layered with ⟨_, layeredBefore⟩
      rcases watched.layered with ⟨_, layered⟩
      have heard := watched.heardFrom_sendAll change.elsewhere change.noRename
      have unheard : changed.heardFrom listener (stack.top bottom) =
          before.heardFrom listener (stack.top bottom) := by
        rw [heardFrom, change.unheard, heardFrom]
      refine ⟨emitted ++ Filter.forwardedByAll stack.filters (changed.sentInAll bottom sends),
        ?_, ?_⟩
      · rw [heard, unheard, heardBefore, List.append_assoc]
      · rw [TypeMap.replayAll_append, followed]
        calc (before.types (stack.top bottom)).replayAll
              (Filter.forwardedByAll stack.filters (changed.sentInAll bottom sends))
          _ = Filter.shownByAll stack.filters
                ((before.types bottom).replayAll (changed.sentInAll bottom sends)) := by
              rw [layeredBefore.types_top run.watched.stacked, Filter.replayAll_forwardedByAll]
          _ = Filter.shownByAll stack.filters (changed.types bottom) := by rw [change.faithful]
          _ = changed.types (stack.top bottom) := (layered.types_top watched.stacked).symm
          _ = (changed.sendAll sends).types (stack.top bottom) := by
              rw [types, types, (sameWiring_sendAll changed sends).scene]

theorem FaithfulRun.replay_heardFrom_filteredTwice :
    ∃ emitted, (filteredTwice.addPrims 0 mixedPrims).heardFrom 0 2 =
        filteredTwice.heardFrom 0 2 ++ emitted ∧
      (filteredTwice.types 2).replayAll emitted =
        (filteredTwice.addPrims 0 mixedPrims).types 2 := by
  have stores : filteredTwice.Stores 0 .empty := ⟨by decide, rfl⟩
  have run := (FaithfulRun.start watched_filteredTwice).addPrims stores .empty
    (show ∀ entry ∈ mixedPrims, entry.1.isPrim = true by decide)
  exact run.replay_heardFrom

example : (filteredTwice.addPrims 0 mixedPrims).heardFrom 0 2 =
    [.added [(.absolute ["a"] none, "Xform"), (.absolute ["a", "b"] none, "")]] := by
  decide +kernel

end Network

end LayeredScene
