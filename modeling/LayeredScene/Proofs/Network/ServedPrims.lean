import LayeredScene.Proofs.Network.StoredPrims
import Mathlib.Data.List.Basic

/-! # Prims that delegates serve

An index that delegates serve prims of keeps these twice: in its table as prims like all others, and
on a list of their own, from which it knows whose memory is stale. The two are changed by separate
code. Edit by edit they stay in step at all prim paths, except that a root that is removed when
there is nothing else stays on the list. What is not at a prim path is refused by the table only. -/

namespace LayeredScene

def DelegatedPrim.stored (prim : DelegatedPrim) : Prim := ⟨prim.type, some prim.data⟩

inductive ServedEdit
  | serve (path : Path) (prim : DelegatedPrim)
  | store (path : Path) (prim : Prim)
  | remove (path : Path)

/-- The prims of such an index, and which of them delegates serve. -/
structure Serving where
  table : PrimTable
  served : List (Path × DelegatedPrim)

namespace ServedEdit

def installs (path : Path) (known : Option DelegatedPrim) : ServedEdit → Option DelegatedPrim
  | .serve other prim => if other = path then some prim else known
  | .store other _ => if other = path then none else known
  | .remove top => if path.liesUnder top then none else known

/-- The prim of a delegate that some edits have left at a path: nothing was stored there since, and
nothing above it was removed. -/
def installed (history : List ServedEdit) (path : Path) : Option DelegatedPrim :=
  history.foldl (installs path) none

def storesAt (path : Path) : ServedEdit → Bool
  | .serve other _ | .store other _ => decide (other = path)
  | .remove _ => false

end ServedEdit

namespace Serving

def empty : Serving := ⟨.empty, []⟩

def edited (serving : Serving) : ServedEdit → Serving
  | .serve path prim =>
      ⟨serving.table.inserted path prim.stored,
        (path, prim) :: serving.served.filter (·.1 ≠ path)⟩
  | .store path prim => ⟨serving.table.inserted path prim, serving.served.filter (·.1 ≠ path)⟩
  | .remove path =>
      ⟨(serving.table.removeSubtree path).1,
        if (serving.table.removeSubtree path).2 then
          serving.served.filter fun known => !known.1.liesUnder path
        else serving.served⟩

def afterEdits (history : List ServedEdit) : Serving := history.foldl edited empty

def known? (serving : Serving) (path : Path) : Option DelegatedPrim :=
  (serving.served.find? (·.1 = path)).map (·.2)

/-- Whether the root was removed when nothing else was stored, and no prim was stored there since.
-/
def ClearedAlone (history : List ServedEdit) : Prop :=
  ∃ earlier later, history = earlier ++ .remove .root :: later ∧
    ((afterEdits earlier).table.removeSubtree .root).2 = false ∧
    ∀ next ∈ later, next.storesAt .root = false

variable {serving : Serving} {history : List ServedEdit} {path : Path}

theorem find?_filter_key {α : Type} (entries : List (Path × α)) (keeps : Path → Bool) (path : Path) :
    (entries.filter fun entry => keeps entry.1).find? (·.1 = path) =
      if keeps path then entries.find? (·.1 = path) else none := by
  induction entries with
  | nil => simp
  | cons entry entries induction =>
      by_cases same : entry.1 = path
      · subst same
        cases kept : keeps entry.1 with
        | true => simp [kept]
        | false => simpa [kept] using induction
      · cases kept : keeps entry.1 <;> simpa [kept, same] using induction

theorem known?_serve (serving : Serving) (other : Path) (prim : DelegatedPrim) (path : Path) :
    (serving.edited (.serve other prim)).known? path =
      if other = path then some prim else serving.known? path := by
  by_cases same : other = path
  · simp [edited, known?, same]
  · have kept : decide (path ≠ other) = true := decide_eq_true (Ne.symm same)
    rw [known?, edited, List.find?_cons_of_neg (by simpa using same),
      find?_filter_key serving.served (· ≠ other), if_pos kept, if_neg same, known?]

theorem known?_store (serving : Serving) (other : Path) (prim : Prim) (path : Path) :
    (serving.edited (.store other prim)).known? path =
      if other = path then none else serving.known? path := by
  rw [known?, edited, find?_filter_key serving.served (· ≠ other)]
  by_cases same : other = path
  · simp [same]
  · have kept : decide (path ≠ other) = true := decide_eq_true (Ne.symm same)
    rw [if_pos kept, if_neg same, known?]

theorem known?_remove (serving : Serving) (top path : Path) :
    (serving.edited (.remove top)).known? path =
      if (serving.table.removeSubtree top).2 && path.liesUnder top then none
      else serving.known? path := by
  rw [known?, edited]
  cases (serving.table.removeSubtree top).2 with
  | false => rfl
  | true =>
      rw [if_pos rfl, find?_filter_key serving.served (!·.liesUnder top)]
      cases path.liesUnder top <;> rfl

theorem installed_concat (history : List ServedEdit) (edit : ServedEdit) (path : Path) :
    ServedEdit.installed (history ++ [edit]) path =
      edit.installs path (ServedEdit.installed history path) := by
  rw [ServedEdit.installed, List.foldl_append]
  rfl

structure InStep (serving : Serving) (history : List ServedEdit) : Prop where
  tree : serving.table.IsTree
  stored : ∀ path prim, path.isPrim = true → ServedEdit.installed history path = some prim →
    serving.table.prim path = prim.stored
  known : ∀ path, path.isPrim = true → (path = .root → ¬ClearedAlone history) →
    serving.known? path = ServedEdit.installed history path
  refused : ∀ path, path.isPrim = false → (∀ prim, .serve path prim ∉ history) →
    serving.known? path = none

theorem InStep.empty : Serving.empty.InStep [] where
  tree := .empty
  stored path prim _ isInstalled := by cases isInstalled
  known _ _ _ := rfl
  refused _ _ _ := rfl

theorem ClearedAlone.concat (cleared : ClearedAlone history) {edit : ServedEdit}
    (elsewhere : edit.storesAt .root = false) : ClearedAlone (history ++ [edit]) := by
  rcases cleared with ⟨earlier, later, rfl, alone, unstored⟩
  refine ⟨earlier, later ++ [edit], by simp, alone, ?_⟩
  intro next member
  rcases List.mem_append.mp member with member | isLast
  · exact unstored next member
  · rw [List.mem_singleton.mp isLast]
    exact elsewhere

theorem InStep.installed_of_unreported (inStep : (afterEdits history).InStep history) {top : Path}
    (isPrim : path.isPrim = true) (under : path.liesUnder top = true)
    (unreported : ((afterEdits history).table.removeSubtree top).2 = false)
    (notCleared : path = .root → ¬ClearedAlone (history ++ [.remove top])) :
    ServedEdit.installed history path = none := by
  rw [Option.eq_none_iff_forall_ne_some]
  intro prim isInstalled
  have isStored := inStep.stored path prim isPrim isInstalled
  have changed : ((afterEdits history).table.removeSubtree top).1.prim path ≠
      (afterEdits history).table.prim path := by
    rw [inStep.tree.prim_removeSubtree, under, if_pos rfl, isStored]
    intro same
    cases congrArg Prim.data same
  rcases inStep.tree.removed_of_changed changed with ⟨_, reported | ⟨rfl, isRoot⟩⟩
  · rw [unreported] at reported
    cases reported
  · exact notCleared isRoot ⟨history, [], rfl, unreported, by simp⟩

theorem InStep.edited (inStep : (afterEdits history).InStep history) (edit : ServedEdit) :
    ((afterEdits history).edited edit).InStep (history ++ [edit]) := by
  have known : ∀ path, path.isPrim = true → (path = .root → ¬ClearedAlone (history ++ [edit])) →
      edit.storesAt path = false →
      (afterEdits history).known? path = ServedEdit.installed history path := by
    intro path isPrim notCleared elsewhere
    apply inStep.known path isPrim
    -- only a prim stored at the root ends that it was cleared alone
    rintro rfl cleared
    exact notCleared rfl (cleared.concat elsewhere)
  have refused : ∀ path, path.isPrim = false → (∀ prim, .serve path prim ∉ history ++ [edit]) →
      (afterEdits history).known? path = none :=
    fun path isNoPrim never => inStep.refused path isNoPrim fun prim member =>
      never prim (List.mem_append_left _ member)
  cases edit with
  | serve other served =>
      constructor
      · exact inStep.tree.inserted other served.stored
      · intro path prim isPrim isInstalled
        rw [installed_concat, ServedEdit.installs] at isInstalled
        rw [Serving.edited, inStep.tree.prim_inserted]
        split at isInstalled
        · rename_i same
          cases isInstalled
          rw [if_pos ⟨same ▸ isPrim, same.symm⟩]
        · rename_i differs
          rw [if_neg fun both => differs both.2.symm]
          exact inStep.stored path prim isPrim isInstalled
      · intro path isPrim notCleared
        rw [known?_serve, installed_concat, ServedEdit.installs]
        split
        · rfl
        · rename_i differs
          exact known path isPrim notCleared (decide_eq_false differs)
      · intro path isNoPrim never
        rw [known?_serve, if_neg, refused path isNoPrim never]
        rintro rfl
        exact never served (by simp)
  | store other stored =>
      constructor
      · exact inStep.tree.inserted other stored
      · intro path prim isPrim isInstalled
        rw [installed_concat, ServedEdit.installs] at isInstalled
        rw [Serving.edited, inStep.tree.prim_inserted]
        split at isInstalled
        · cases isInstalled
        · rename_i differs
          rw [if_neg fun both => differs both.2.symm]
          exact inStep.stored path prim isPrim isInstalled
      · intro path isPrim notCleared
        rw [known?_store, installed_concat, ServedEdit.installs]
        split
        · rfl
        · rename_i differs
          exact known path isPrim notCleared (decide_eq_false differs)
      · intro path isNoPrim never
        rw [known?_store, refused path isNoPrim never, ite_self]
  | remove top =>
      constructor
      · exact inStep.tree.removeSubtree top
      · intro path prim isPrim isInstalled
        rw [installed_concat, ServedEdit.installs] at isInstalled
        rw [Serving.edited, inStep.tree.prim_removeSubtree]
        split at isInstalled
        · cases isInstalled
        · rename_i outside
          rw [if_neg outside]
          exact inStep.stored path prim isPrim isInstalled
      · intro path isPrim notCleared
        rw [known?_remove, installed_concat, ServedEdit.installs, known path isPrim notCleared rfl]
        cases under : path.liesUnder top with
        | false => rw [Bool.and_false]
        | true =>
            cases reported : ((afterEdits history).table.removeSubtree top).2 with
            | true => rfl
            -- the list is left alone then, and has nothing at the path anyway
            | false => exact inStep.installed_of_unreported isPrim under reported notCleared
      · intro path isNoPrim never
        rw [known?_remove, refused path isNoPrim never, ite_self]

theorem inStep_afterEdits (history : List ServedEdit) : (afterEdits history).InStep history := by
  induction history using List.reverseRecOn with
  | nil => exact .empty
  | append_singleton history edit induction =>
      have step := induction.edited edit
      rw [afterEdits, List.foldl_append]
      exact step

end Serving

/-! ## Calls -/

namespace Serving

theorem foldl_store (serving : Serving) (entries : PrimEntries) :
    (entries.map fun entry => ServedEdit.store entry.1 entry.2).foldl edited serving =
      ⟨(serving.table.insertAll entries).1,
        serving.served.filter fun known => !(entries.map (·.1)).contains known.1⟩ := by
  induction entries generalizing serving with
  | nil =>
      simp only [List.map_nil, List.foldl_nil, List.contains_nil, Bool.not_false, List.filter_true]
      rfl
  | cons entry entries induction =>
      rw [List.map_cons, List.foldl_cons, induction, PrimTable.insertAll_eq, PrimTable.insertAll_eq]
      simp only [edited, List.filter_filter]
      congr 1
      apply List.filter_congr
      intro known _
      by_cases same : known.1 = entry.1 <;> simp [same]

theorem foldl_remove (serving : Serving) (paths : List Path) :
    (paths.map ServedEdit.remove).foldl edited serving =
      ⟨(serving.table.removeAll paths).1,
        serving.served.filter fun known =>
          !(serving.table.removeAll paths).2.any (known.1.liesUnder ·)⟩ := by
  induction paths using List.reverseRecOn with
  | nil =>
      simp only [PrimTable.removeAll, List.map_nil, List.foldl_nil, List.any_nil, Bool.not_false,
        List.filter_true]
  | append_singleton paths last induction =>
      rw [List.map_append, List.foldl_append, induction, PrimTable.removeAll_concat]
      simp only [List.map_cons, List.map_nil, List.foldl_cons, List.foldl_nil, edited]
      cases ((serving.table.removeAll paths).1.removeSubtree last).2 with
      | false => rfl
      | true =>
          simp only [if_true, List.filter_filter, List.any_append, List.any_cons, List.any_nil,
            Bool.or_false, Bool.not_or]
          congr 1
          apply List.filter_congr
          intro known _
          rw [Bool.and_comm]

end Serving

inductive ServedCall
  | serve (path : Path) (type : Token) (delegate : Nat)
  | add (entries : PrimEntries)
  | remove (paths : List Path)
  | dirty (entries : List (Path × LocatorSet))

def ServedCall.announcement (serving : Serving) : ServedCall → Batch
  | .serve path type _ => .added [(path, type)]
  | .add entries => announced entries
  | .remove paths => .removed (serving.table.removeAll paths).2
  | .dirty entries => .dirtied entries

namespace Network

variable {network : Network} {number : Nat} {serving : Serving}

structure Serves (network : Network) (number : Nat) (serving : Serving) : Prop where
  inside : number < network.nodes.size
  index : (network.node number).index = .delegated serving.table serving.served

def servedCalled (number : Nat) (network : Network) : ServedCall → Network
  | .serve path type delegate => network.addServed number path type delegate
  | .add entries => network.addPrims number entries
  | .remove paths => network.removePrims number paths
  | .dirty entries => network.dirtyPrims number entries

def servedEdits (network : Network) : ServedCall → List ServedEdit
  | .serve path type delegate => [.serve path ⟨⟨⟨delegate, path⟩, network.store.next⟩, type⟩]
  | .add entries => entries.map fun entry => .store entry.1 entry.2
  | .remove paths => paths.map .remove
  | .dirty _ => []

def afterServedCalls (number : Nat) (network : Network) (calls : List ServedCall) : Network :=
  calls.foldl (servedCalled number) network

def servedHistory (number : Nat) (network : Network) : List ServedCall → List ServedEdit
  | [] => []
  | call :: calls =>
      network.servedEdits call ++ (network.servedCalled number call).servedHistory number calls

theorem Serves.of_sameWiring {after : Network} (serves : network.Serves number serving)
    (same : network.SameWiring after) : after.Serves number serving where
  inside := by
    rw [same.nodes]
    exact serves.inside
  index := by
    rw [same.node]
    exact serves.index

structure Reserved (before after : Network) (number : Nat) (serving : Serving) : Prop where
  shape : before.SameShape after
  serves : after.Serves number serving
  unheard : after.heard = before.heard

theorem Serves.reserved (serves : network.Serves number serving) {after : Network}
    {other : Serving}
    (same : (network.setIndex number (.delegated other.table other.served)).SameWiring after)
    (unheard : after.heard = network.heard) : network.Reserved after number other := by
  have inputs : (Index.delegated other.table other.served).inputs =
      (network.node number).index.inputs := by
    rw [serves.index]
    rfl
  rcases replaced_of_setIndex serves.inside inputs same with ⟨shape, inside, index⟩
  exact ⟨shape, ⟨inside, index⟩, unheard⟩

theorem Serves.addServed (serves : network.Serves number serving) (path : Path) (type : Token)
    (delegate : Nat) :
    ∃ changed, network.addServed number path type delegate =
        changed.send number (.added [(path, type)]) ∧
      network.Reserved changed number
        (serving.edited (.serve path ⟨⟨⟨delegate, path⟩, network.store.next⟩, type⟩)) := by
  let prim : DelegatedPrim := ⟨⟨⟨delegate, path⟩, network.store.next⟩, type⟩
  let after := serving.edited (.serve path prim)
  let counted := (network.read Reads.newNumber).2
  have same : network.SameWiring counted := sameWiring_read network Reads.newNumber
  have added : counted.Reserved
      ((counted.setIndex number (.delegated after.table after.served)).report
        (misuseOf (serving.table.insert path prim.stored))) number after :=
    (serves.of_sameWiring same).reserved (sameWiring_report _ _) rfl
  refine ⟨_, ?_, same.sameShape.trans added.shape, added.serves, added.unheard⟩
  simp only [Network.addServed, serves.index]
  rfl

theorem Serves.addPrims (serves : network.Serves number serving) (entries : PrimEntries) :
    ∃ changed, network.addPrims number entries = changed.send number (announced entries) ∧
      network.Reserved changed number ⟨(serving.table.insertAll entries).1,
        serving.served.filter fun known => !(entries.map (·.1)).contains known.1⟩ := by
  refine ⟨_, ?_, serves.reserved (sameWiring_report _ (serving.table.insertAll entries).2) rfl⟩
  simp only [Network.addPrims, serves.index]

theorem Serves.sends_called (serves : network.Serves number serving) (call : ServedCall) :
    ∃ changed, network.servedCalled number call = changed.send number (call.announcement serving) ∧
      network.Reserved changed number
        ((network.servedEdits call).foldl Serving.edited serving) := by
  cases call with
  | serve path type delegate => exact serves.addServed path type delegate
  | add entries =>
      rw [servedEdits, Serving.foldl_store]
      exact serves.addPrims entries
  | remove paths =>
      rw [servedEdits, Serving.foldl_remove]
      refine ⟨_, ?_, serves.reserved (.refl _) rfl⟩
      simp only [servedCalled, Network.removePrims, serves.index]
      rfl
  | dirty entries =>
      have forgotten : ∀ store, network.SameWiring { network with store := store } :=
        fun _ => ⟨rfl, rfl, rfl, rfl⟩
      exact ⟨_, rfl, (forgotten _).sameShape, serves.of_sameWiring (forgotten _), rfl⟩

theorem Serves.called (serves : network.Serves number serving) (call : ServedCall) :
    (network.servedCalled number call).Serves number
      ((network.servedEdits call).foldl Serving.edited serving) := by
  rcases serves.sends_called call with ⟨changed, sends, reserved⟩
  rw [sends]
  exact reserved.serves.of_sameWiring (sameWiring_send changed number _)

theorem Serves.afterServedCalls (serves : network.Serves number serving)
    (calls : List ServedCall) :
    (network.afterServedCalls number calls).Serves number
      ((network.servedHistory number calls).foldl Serving.edited serving) := by
  induction calls generalizing network serving with
  | nil => exact serves
  | cons call calls induction =>
      rw [servedHistory, List.foldl_append]
      exact induction (serves.called call)

theorem Serves.servedPrim? (serves : network.Serves number serving) (path : Path) :
    network.servedPrim? number path = serving.known? path := by
  rw [Network.servedPrim?, serves.index]
  rfl

theorem Serves.scene (serves : network.Serves number serving) :
    network.scene number = serving.table.scene := by
  rcases exists_levels serves.inside with ⟨levels, enough⟩
  rw [Network.scene, enough, sceneThrough, serves.index]

/-- An index that delegates serve prims of finds a served prim at a prim path just where the prim it
shows there was stored as one, by whatever calls, and shows just its data there. The root is an
exception once it was removed when there was nothing else, until a prim is stored there again. At
other paths nothing is ever shown, and only what was tried to be stored there is found. -/
theorem afterServedCalls_inStep (serves : network.Serves number .empty) (calls : List ServedCall) :
    (∀ path, path.isPrim = true →
        (path = .root → ¬Serving.ClearedAlone (network.servedHistory number calls)) →
      ∀ prim, (network.afterServedCalls number calls).servedPrim? number path = some prim ↔
        ServedEdit.installed (network.servedHistory number calls) path = some prim) ∧
    (∀ path prim, path.isPrim = true →
      ServedEdit.installed (network.servedHistory number calls) path = some prim →
        ((network.afterServedCalls number calls).scene number).prim path = prim.stored) ∧
    ∀ path, path.isPrim = false →
      ((network.afterServedCalls number calls).scene number).prim path = .blank ∧
        ((∀ prim, .serve path prim ∉ network.servedHistory number calls) →
          (network.afterServedCalls number calls).servedPrim? number path = none) := by
  have after := serves.afterServedCalls calls
  have inStep := Serving.inStep_afterEdits (network.servedHistory number calls)
  refine ⟨?_, ?_, ?_⟩
  · intro path isPrim notCleared prim
    rw [after.servedPrim?]
    exact Eq.congr_left (inStep.known path isPrim notCleared)
  · intro path prim isPrim isInstalled
    rw [after.scene]
    exact inStep.stored path prim isPrim isInstalled
  · intro path isNoPrim
    rw [after.scene, after.servedPrim?]
    refine ⟨PrimTable.prim_of_absent ?_, inStep.refused path isNoPrim⟩
    apply Bool.eq_false_iff.mpr
    intro isStored
    rw [inStep.tree.isPrim path isStored] at isNoPrim
    cases isNoPrim

def replacingOne : List ServedCall :=
  [.serve (.absolute ["a"] none) "mesh" 0, .serve (.absolute ["b"] none) "mesh" 0,
    .add [(.absolute ["a"] none, ⟨"scope", none⟩)]]

theorem afterServedCalls_inStep_replacingOne :
    empty.addDelegated.2.Serves 0 .empty ∧
      (empty.addDelegated.2.afterServedCalls 0 replacingOne).servedPrim? 0 (.absolute ["a"] none) =
        none ∧
      ∃ prim, (empty.addDelegated.2.afterServedCalls 0 replacingOne).servedPrim? 0
          (.absolute ["b"] none) = some prim ∧
        ((empty.addDelegated.2.afterServedCalls 0 replacingOne).scene 0).prim
          (.absolute ["b"] none) = prim.stored := by
  have serves : empty.addDelegated.2.Serves 0 .empty := ⟨by decide, rfl⟩
  rcases afterServedCalls_inStep serves replacingOne with ⟨found, shown, _⟩
  have replaced : (ServedEdit.installed (empty.addDelegated.2.servedHistory 0 replacingOne)
      (.absolute ["a"] none)).isSome = false := by decide +kernel
  have stays : (ServedEdit.installed (empty.addDelegated.2.servedHistory 0 replacingOne)
      (.absolute ["b"] none)).isSome = true := by decide +kernel
  rcases Option.isSome_iff_exists.mp stays with ⟨prim, isInstalled⟩
  have foundB := (found (.absolute ["b"] none) rfl nofun prim).mpr isInstalled
  refine ⟨serves, ?_, prim, foundB, shown _ prim rfl isInstalled⟩
  rw [Option.eq_none_iff_forall_ne_some]
  intro other isFound
  rw [(found (.absolute ["a"] none) rfl nofun other).mp isFound] at replaced
  cases replaced

/-- A prim that a delegate serves is still found at the root after the root was removed, and at a
path where it was never stored. -/
theorem not_inStep_removal_of_root :
    (((empty.addDelegated.2.afterServedCalls 0
          [.serve .root "mesh" 0, .remove [.root]]).servedPrim? 0 .root).isSome = true ∧
      (((empty.addDelegated.2.afterServedCalls 0
          [.serve .root "mesh" 0, .remove [.root]]).scene 0).prim .root).isBlank = true) ∧
    ((empty.addDelegated.2.afterServedCalls 0
          [.serve (.absolute ["a"] (some "p")) "mesh" 0]).servedPrim? 0
            (.absolute ["a"] (some "p"))).isSome = true ∧
      (((empty.addDelegated.2.afterServedCalls 0
          [.serve (.absolute ["a"] (some "p")) "mesh" 0]).scene 0).prim
            (.absolute ["a"] (some "p"))).isBlank = true := by
  decide +kernel

end Network

end LayeredScene
