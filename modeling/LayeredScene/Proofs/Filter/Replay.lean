import LayeredScene.Filter.Basic
import LayeredScene.Proofs.Filter.PathPruning

/-! # Replaying notices

Whoever keeps the types of the prims of a scene can follow what the scene says has changed, without
another look at it. A filter masks types path by path, and what it passes on is what its own types
need to be followed in the same way.
-/

namespace LayeredScene

/-- The type of the prim at every path; a path that nothing is known of has the empty one. -/
abbrev TypeMap := Path → Token

/-- The types of the prims of a scene. -/
def Scene.types (scene : Scene) : TypeMap := fun path => (scene.prim path).type

theorem Scene.types_of_blank {scene : Scene} {path : Path} (blank : scene.prim path = .blank) :
    scene.types path = "" := by
  rw [Scene.types, blank]
  rfl

namespace TypeMap

def set (types : TypeMap) (entry : Path × Token) : TypeMap := fun path =>
  if path = entry.1 then entry.2 else types path

def forget (types : TypeMap) (gone : Path) : TypeMap := fun path =>
  if path = gone ∨ path.liesUnder gone then "" else types path

/-- The types after what a batch says. Dirtying leaves types alone. So does a rename here: it is for
those who look at the scene. -/
def replay (types : TypeMap) : Batch → TypeMap
  | .added entries => entries.foldl set types
  | .removed paths => paths.foldl forget types
  | .dirtied _ => types
  | .renamed _ => types

def replayAll (types : TypeMap) (batches : List Batch) : TypeMap := batches.foldl replay types

theorem replayAll_append (types : TypeMap) (first second : List Batch) :
    types.replayAll (first ++ second) = (types.replayAll first).replayAll second :=
  List.foldl_append

theorem replay_of_isEmpty (types : TypeMap) {batch : Batch} (isEmpty : batch.isEmpty = true) :
    types.replay batch = types := by
  cases batch with
  | added entries => rw [List.isEmpty_iff.mp isEmpty]; rfl
  | removed paths => rw [List.isEmpty_iff.mp isEmpty]; rfl
  | dirtied entries => rfl
  | renamed entries => rfl

theorem foldl_set (types target : TypeMap) {entries : List (Path × Token)}
    (agree : ∀ entry ∈ entries, entry.2 = target entry.1) (path : Path) :
    entries.foldl set types path =
      if ∃ entry ∈ entries, path = entry.1 then target path else types path := by
  induction entries generalizing types with
  | nil => simp
  | cons entry entries induction =>
      rw [List.foldl_cons, induction (types.set entry) fun other member =>
        agree other (List.mem_cons_of_mem _ member), TypeMap.set]
      by_cases same : path = entry.1
      · simp [same, agree entry List.mem_cons_self]
      · by_cases later : ∃ entry ∈ entries, path = entry.1 <;> simp [same, later]

theorem foldl_forget (types : TypeMap) (gone : List Path) (path : Path) :
    gone.foldl forget types path =
      if ∃ top ∈ gone, path = top ∨ path.liesUnder top = true then "" else types path := by
  induction gone generalizing types with
  | nil => simp
  | cons top gone induction =>
      rw [List.foldl_cons, induction, TypeMap.forget]
      by_cases later : ∃ top ∈ gone, path = top ∨ path.liesUnder top = true
      · simp [later]
      · simp [later]

theorem replayAll_filter_not_isEmpty (types : TypeMap) (batches : List Batch) :
    types.replayAll (batches.filter (!·.isEmpty)) = types.replayAll batches := by
  rw [replayAll, replayAll, List.foldl_filter]
  congr 1
  funext types batch
  cases isEmpty : batch.isEmpty with
  | true => exact (types.replay_of_isEmpty isEmpty).symm
  | false => rfl

end TypeMap

def Batch.isRename : Batch → Bool
  | .renamed _ => true
  | _ => false

theorem Batch.withoutRenames_of_not_isRename (batch : Batch) (scene : Scene)
    (noRename : batch.isRename = false) : batch.withoutRenames scene = [batch] := by
  cases batch with
  | renamed entries => contradiction
  | _ => rfl

namespace Filter

/-- The types that a filter shows for those below it. -/
def shownTypes (filter : Filter) (types : TypeMap) : TypeMap := fun path =>
  match filter with
  | .types pruning true => pruning.announcedType path (types path)
  | .paths pruning => if pruning.prunes path then "" else types path
  | _ => types path

theorem type_prunedPrim (pruning : TypePruning) (number : Nat) (keeps : List Nat) (path : Path)
    (prim : Prim) :
    (pruning.prunedPrim number keeps path prim).type = pruning.announcedType path prim.type := by
  rw [TypePruning.prunedPrim, TypePruning.announcedType]
  split
  · rfl
  · split <;> rfl

theorem types_scene (filter : Filter) (number input : Nat) (below : Scene) :
    (filter.scene number input below).types = filter.shownTypes below.types := by
  funext path
  cases filter with
  | types pruning enabled =>
      cases enabled with
      | true => exact type_prunedPrim pruning number [input] path (below.prim path)
      | false => rfl
  | paths pruning =>
      simp only [scene, shownTypes, Scene.types, PathPruning.scene]
      split <;> rfl
  | globals object globals =>
      simp only [scene, shownTypes, Scene.types, Scene.withGlobals]
      split <;> rfl
  | motion =>
      simp only [scene, shownTypes, Scene.types, Motion.scene, Motion.movedPrim]
      split <;> rfl

/-! ## One filter -/

theorem announcedType_empty (pruning : TypePruning) (path : Path) :
    pruning.announcedType path "" = "" := by
  rw [TypePruning.announcedType, ite_self]

theorem shownTypes_set_types (pruning : TypePruning) (types : TypeMap) (entry : Path × Token) :
    (Filter.types pruning true).shownTypes (types.set entry) =
      ((Filter.types pruning true).shownTypes types).set
        (entry.1, pruning.announcedType entry.1 entry.2) := by
  funext path
  simp only [shownTypes, TypeMap.set]
  by_cases same : path = entry.1
  · rw [if_pos same, if_pos same, same]
  · rw [if_neg same, if_neg same]

theorem shownTypes_forget_types (pruning : TypePruning) (types : TypeMap) (gone : Path) :
    (Filter.types pruning true).shownTypes (types.forget gone) =
      ((Filter.types pruning true).shownTypes types).forget gone := by
  funext path
  simp only [shownTypes, TypeMap.forget]
  split
  · exact announcedType_empty pruning path
  · rfl

theorem shownTypes_set_paths (pruning : PathPruning) (types : TypeMap) (entry : Path × Token) :
    (Filter.paths pruning).shownTypes (types.set entry) =
      if pruning.prunes entry.1 then (Filter.paths pruning).shownTypes types
      else ((Filter.paths pruning).shownTypes types).set entry := by
  funext path
  by_cases same : path = entry.1
  · subst path
    cases pruned : pruning.prunes entry.1 <;> simp [shownTypes, TypeMap.set, pruned]
  · cases pruned : pruning.prunes entry.1 <;> simp [shownTypes, TypeMap.set, same]

theorem shownTypes_forget_paths (pruning : PathPruning) (types : TypeMap) (gone : Path) :
    (Filter.paths pruning).shownTypes (types.forget gone) =
      if pruning.prunes gone then (Filter.paths pruning).shownTypes types
      else ((Filter.paths pruning).shownTypes types).forget gone := by
  funext path
  by_cases under : path = gone ∨ path.liesUnder gone = true
  · cases pruned : pruning.prunes gone with
    | true =>
        have alsoPruned : pruning.prunes path = true := by
          rcases under with rfl | under
          · exact pruned
          · exact PathPruning.prunes_of_liesUnder under pruned
        simp [shownTypes, alsoPruned]
    | false => simp [shownTypes, TypeMap.forget, under]
  · cases pruned : pruning.prunes gone <;> simp [shownTypes, TypeMap.forget, under]

/-- Following what a filter passes on leads from the types it shows to the types it shows of those
that lead from following what it is told. -/
theorem replay_forward (filter : Filter) (types : TypeMap) (batch : Batch) :
    (filter.shownTypes types).replay (filter.forward batch) =
      filter.shownTypes (types.replay batch) := by
  cases filter with
  | types pruning enabled =>
      cases enabled with
      | true =>
          cases batch with
          | added entries =>
              simp only [forward, TypeMap.replay, List.foldl_map]
              exact List.foldl_hom _ fun types entry =>
                (shownTypes_set_types pruning types entry).symm
          | removed paths =>
              exact List.foldl_hom _ fun types gone =>
                (shownTypes_forget_types pruning types gone).symm
          | dirtied entries => rfl
          | renamed entries => rfl
      | false => cases batch <;> rfl
  | paths pruning =>
      cases batch with
      | added entries =>
          simp only [forward, TypeMap.replay, List.foldl_filter]
          apply List.foldl_hom
          intro types entry
          rw [shownTypes_set_paths]
          cases pruning.prunes entry.1 <;> rfl
      | removed paths =>
          simp only [forward, TypeMap.replay, List.foldl_filter]
          apply List.foldl_hom
          intro types gone
          rw [shownTypes_forget_paths]
          cases pruning.prunes gone <;> rfl
      | dirtied entries => rfl
      | renamed entries => rfl
  | globals object globals => cases batch <;> rfl
  | motion => cases batch <;> rfl

theorem isRename_forward (filter : Filter) (batch : Batch) :
    (filter.forward batch).isRename = batch.isRename := by
  cases filter with
  | types pruning enabled => cases enabled <;> cases batch <;> rfl
  | paths pruning => cases batch <;> rfl
  | globals object globals => cases batch <;> rfl
  | motion => cases batch <;> rfl

theorem respond_of_not_isRename (filter : Filter) (below : Scene) {batch : Batch}
    (noRename : batch.isRename = false) : filter.respond below batch = [filter.forward batch] := by
  rw [respond, batch.withoutRenames_of_not_isRename below noRename, List.map_singleton, ite_self]

/-! ## Filters on top of one another -/

/-- The types that the last of some filters shows, each standing on the one before it. -/
def shownByAll (filters : List Filter) (types : TypeMap) : TypeMap :=
  filters.foldl (fun types filter => filter.shownTypes types) types

def forwardedByAll (filters : List Filter) (batches : List Batch) : List Batch :=
  filters.foldl (fun batches filter => (batches.map filter.forward).filter (!·.isEmpty)) batches

theorem replayAll_map_forward (filter : Filter) (types : TypeMap) (batches : List Batch) :
    (filter.shownTypes types).replayAll (batches.map filter.forward) =
      filter.shownTypes (types.replayAll batches) := by
  rw [TypeMap.replayAll, List.foldl_map]
  exact List.foldl_hom _ fun types batch => replay_forward filter types batch

theorem forwardedByAll_flatMap {α : Type} (filters : List Filter) (items : List α)
    (batches : α → List Batch) :
    forwardedByAll filters (items.flatMap batches) =
      items.flatMap fun item => forwardedByAll filters (batches item) := by
  induction filters generalizing batches with
  | nil => rfl
  | cons filter filters induction =>
      rw [forwardedByAll, List.foldl_cons, List.map_flatMap, List.filter_flatMap]
      exact induction _

theorem replayAll_forwardedByAll (filters : List Filter) (types : TypeMap) (batches : List Batch) :
    (shownByAll filters types).replayAll (forwardedByAll filters batches) =
      shownByAll filters (types.replayAll batches) := by
  induction filters generalizing types batches with
  | nil => rfl
  | cons filter filters induction =>
      rw [shownByAll, forwardedByAll, List.foldl_cons, List.foldl_cons]
      refine (induction _ _).trans ?_
      rw [TypeMap.replayAll_filter_not_isEmpty, replayAll_map_forward, shownByAll, shownByAll,
        List.foldl_cons]

end Filter

end LayeredScene
