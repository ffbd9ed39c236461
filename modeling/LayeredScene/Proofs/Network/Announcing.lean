import LayeredScene.Proofs.Filter.TypePruning
import LayeredScene.Proofs.Network.FilterStack

/-! # What a type filter announces

A type filter passes on the changes of the stored prims below it. That announces all changes of the
prims that it shows but one sort: bindings that come and go with the type of the prim they lead to.
Nothing is announced for the prims that are bound, only for the prim they are bound to.
-/

namespace LayeredScene

/-! ## Announced changes -/

/-- Whether a batch says that the prim at a path may be another from now on. -/
def Batch.announces (path : Path) : Batch → Bool
  | .added entries => entries.any (·.1 = path)
  | .removed gone => gone.any (path.liesUnder ·)
  | .dirtied entries => entries.any (·.1 = path)
  | .renamed _ => false

theorem Batch.isEmpty_of_announces {batch : Batch} {path : Path}
    (announces : batch.announces path = true) : batch.isEmpty = false := by
  cases batch with
  | renamed entries => cases announces
  | _ entries => cases entries with
    | nil => cases announces
    | cons entry entries => rfl

namespace Filter

variable {pruning : TypePruning} {batch : Batch}

theorem announces_forward_types (pruning : TypePruning) (path : Path) :
    ((Filter.types pruning true).forward batch).announces path = batch.announces path := by
  cases batch <;> simp [forward, Batch.announces, Function.comp_def]

theorem exists_announces_forwarded {path : Path} (announces : batch.announces path = true) :
    ∃ said ∈ forwardedByAll [.types pruning true] (if batch.isEmpty then [] else [batch]),
      said.announces path = true := by
  have forwarded := announces
  rw [← announces_forward_types pruning] at forwarded
  refine ⟨(Filter.types pruning true).forward batch, ?_, forwarded⟩
  simp [forwardedByAll, Batch.isEmpty_of_announces announces, Batch.isEmpty_of_announces forwarded]

end Filter

/-- Whether a call removes the root of a table and does not say so, as nothing else was stored. -/
def SceneCall.ClearsSilently (table : PrimTable) (call : SceneCall) : Prop :=
  ∃ paths, call = .remove paths ∧ .root ∈ paths ∧ .root ∉ (table.removeAll paths).2

theorem PrimTable.IsTree.announces_of_changed {table : PrimTable} (tree : table.IsTree)
    {call : SceneCall} {path : Path}
    (changed : (call.edits.foldl PrimTable.edited table).prim path ≠ table.prim path) :
    (call.announcement table).announces path = true ∨ path = .root ∧ call.ClearsSilently table := by
  cases call with
  | add entries =>
      left
      rw [← PrimTable.insertAll_eq] at changed
      by_contra unannounced
      apply changed
      apply tree.prim_insertAll
      rintro entry member rfl
      apply unannounced
      simp only [SceneCall.announcement, announced, Batch.announces, List.any_map, List.any_eq_true]
      exact ⟨entry, member, by simp⟩
  | remove paths =>
      rw [← PrimTable.removeAll_eq] at changed
      rcases tree.prim_removeAll_changed changed with ⟨top, member, under⟩ | ⟨isRoot, among, silent⟩
      · exact .inl (List.any_eq_true.mpr ⟨top, member, under⟩)
      · exact .inr ⟨isRoot, paths, rfl, among, silent⟩

namespace Network

variable {network : Network} {listener bottom number : Nat} {table : PrimTable}

def has (network : Network) (number : Nat) (path : Path) (place : Locator) : Bool :=
  (network.read (((network.scene number).prim path).has place)).1

theorem hides_surroundings (network : Network) : network.surroundings.hides = network.hides := by
  rw [surroundings]
  cases network.levels <;> rfl

theorem Watched.heardFrom_called {stack : FilterStack}
    (watched : network.Watched listener bottom stack) (stores : network.Stores bottom table)
    (call : SceneCall) :
    (network.called bottom call).heardFrom listener (stack.top bottom) =
      network.heardFrom listener (stack.top bottom) ++
        Filter.forwardedByAll stack.filters
          (if (call.announcement table).isEmpty then [] else [call.announcement table]) := by
  rcases stores.sends_called call with ⟨changed, sends, restocked⟩
  have stillWatched : changed.Watched listener bottom stack := by
    apply watched.of_sameShape restocked.shape
    intro layer member
    rw [restocked.kept layer.1 (watched.stacked.ne_of_stores stores member)]
  have said : changed.sentInAll bottom [(bottom, call.announcement table)] =
      if (call.announcement table).isEmpty then [] else [call.announcement table] := by
    rcases stillWatched.layered with ⟨_, layered⟩
    rw [sentInAll, List.flatMap_singleton, layered.sent_self restocked.stores.inside]
  have isOne : changed.send bottom (call.announcement table) =
      changed.sendAll [(bottom, call.announcement table)] := rfl
  rw [sends, isOne, ← heardFrom_of_unheard restocked.unheard, ← said]
  apply stillWatched.heardFrom_sendAll
  · intro send member layer inStack
    rw [List.mem_singleton.mp member]
    exact (watched.stacked.ne_of_stores stores inStack).symm
  · rw [said]
    split
    · simp
    · cases call <;> simp [SceneCall.announcement, announced, Batch.isRename]

theorem Watched.called {stack : FilterStack} (watched : network.Watched listener bottom stack)
    (stores : network.Stores bottom table) (call : SceneCall) :
    (network.called bottom call).Watched listener bottom stack := by
  rcases stores.sameShape_called call with ⟨same, kept⟩
  apply watched.of_sameShape same
  intro layer member
  rw [kept layer.1 (watched.stacked.ne_of_stores stores member)]

section TypeFilter

variable {pruning : TypePruning}

theorem Watched.prim_types
    (watched : network.Watched listener bottom [(number, .types pruning true)])
    (stores : network.Stores bottom table) (path : Path) :
    (network.scene number).prim path =
      pruning.prunedPrim number [bottom] path (table.prim path) := by
  rcases watched.layered with ⟨_, layered⟩
  rw [layered.scene_filter watched.stacked.1, stores.scene]
  rfl

theorem Watched.hides_types
    (watched : network.Watched listener bottom [(number, .types pruning true)]) (target : Path) :
    network.surroundings.hides number target =
      pruning.prunesTarget (network.scene bottom) target := by
  rw [hides_surroundings, hides, watched.stacked.1]

/-- A type filter announces all changes of what it shows of stored prims, but for the bindings that
come or go with the type of another prim. If the type of a prim or the presence of its data at some
place is another after a call on the index below the filter, the filter announces that prim, or it
announces the prim that a binding at or above the place leads to, which is hidden from then on or no
longer. The one change it does not know of is that of a root that is removed when there is nothing
else, which is not reported below it. -/
theorem Watched.called_announces {pruning : TypePruning}
    (watched : network.Watched listener bottom [(number, .types pruning true)])
    (stores : network.Stores bottom table) (tree : table.IsTree) (call : SceneCall) :
    ∃ emitted,
      (network.called bottom call).heardFrom listener number =
        network.heardFrom listener number ++ emitted ∧
      ∀ path place together, together network.store (network.called bottom call).store →
        (∀ data, (table.prim path).data = some data →
          data.toSource.AnswersAlike network.surroundings (network.called bottom call).surroundings
            together data.toSource) →
        ((network.scene number).prim path).type ≠
            (((network.called bottom call).scene number).prim path).type ∨
          network.has number path place ≠ (network.called bottom call).has number path place →
        (∃ batch ∈ emitted, batch.announces path = true) ∨
        (path = .root ∧ call.ClearsSilently table) ∨
        ((network.scene number).prim path).type =
            (((network.called bottom call).scene number).prim path).type ∧
          ∃ data name rest target, (table.prim path).data = some data ∧
            place.tokens = pruning.binding :: name :: rest ∧
            (network.read (TypePruning.boundTo pruning.binding name data)).1 = some target ∧
            pruning.prunesTarget (network.scene bottom) target ≠
              pruning.prunesTarget ((network.called bottom call).scene bottom) target ∧
            ((∃ batch ∈ emitted, batch.announces target = true) ∨
              target = .root ∧ call.ClearsSilently table) := by
  refine ⟨_, watched.heardFrom_called stores call, ?_⟩
  intro path place together stored alike changes
  have watchedAfter := watched.called stores call
  have storesAfter := stores.called call
  have told : ∀ {path}, (call.edits.foldl PrimTable.edited table).prim path ≠ table.prim path →
      (∃ batch ∈ Filter.forwardedByAll [.types pruning true]
          (if (call.announcement table).isEmpty then [] else [call.announcement table]),
        batch.announces path = true) ∨ path = .root ∧ call.ClearsSilently table := by
    intro path changed
    exact (tree.announces_of_changed changed).imp_left Filter.exists_announces_forwarded
  by_cases kept : (call.edits.foldl PrimTable.edited table).prim path = table.prim path
  -- the stored prim is the same, so that only a binding can be shown differently
  · have shown : ((network.called bottom call).scene number).prim path =
        (network.scene number).prim path := by
      rw [watched.prim_types stores, watchedAfter.prim_types storesAfter, kept]
    have seen : network.has number path place ≠ (network.called bottom call).has number path place :=
      changes.resolve_left fun differs => differs (congrArg Prim.type shown.symm)
    rw [has, has, shown, watched.prim_types stores] at seen
    rcases TypePruning.prunedPrim_changes alike stored seen with
      ⟨data, name, rest, target, isData, isPlace, leads, hidden⟩
    rw [watched.hides_types, watchedAfter.hides_types] at hidden
    refine .inr (.inr ⟨congrArg Prim.type shown.symm, data, name, rest, target, isData, isPlace,
      leads, hidden, told ?_⟩)
    intro targetKept
    apply hidden
    rw [stores.scene, storesAfter.scene]
    simp only [TypePruning.prunesTarget, PrimTable.scene, targetKept]
  · exact (told kept).imp_right .inl

end TypeFilter

/-! ## A binding that goes -/

def boundData : Container :=
  .retained (.whole 1) [("materialBindings", some (Container.retained (.whole 2)
    [("allPurpose", some (Container.retained (.whole 3)
      [("path", some (.sampled (.constantOf (.whole 4) (.single .path)
        (.absolute ["mat"] none))))]).toSource)]).toSource)]

theorem boundData_answersAlike {around other : Surroundings} {together : Store → Store → Prop} :
    boundData.toSource.AnswersAlike around other together boundData.toSource := by
  have alone : ∀ {identity : Identity} {name : Token} {source : Source},
      source.AnswersAlike around other together source →
      (Container.retained identity [(name, some source)]).toSource.AnswersAlike around other together
        (Container.retained identity [(name, some source)]).toSource := by
    intro identity name source alike
    apply Source.answersAlike_retained
    rintro member isMember found isFound
    cases List.mem_singleton.mp isMember
    cases isFound
    exact alike
  exact alone (alone (alone (Source.answersAlike_constantOf _ _ _)))

def filteredMaterials : Network :=
  let network := empty.addRetained.2
  let network := (network.addFilter 0 (.types ⟨["material"], "materialBindings", false⟩ true) true).2
  (network.addListener .plain).2.observe 1 (.listener 0)

def addingCube : SceneCall := .add [(.absolute ["cube"] none, ⟨"mesh", some boundData⟩)]

def boundCube : Network := filteredMaterials.called 0 addingCube

def copyingCube : SceneCall :=
  .add [(.absolute ["copy"] none, ⟨"mesh", some (.retained (.whole 5)
    [("cube", ((boundCube.scene 1).prim (.absolute ["cube"] none)).data.map Container.toSource)])⟩)]

def addingMaterial : SceneCall := .add [(.absolute ["mat"] none, ⟨"material", none⟩)]

theorem watched_filteredMaterials :
    filteredMaterials.Watched 0 0 [(1, .types ⟨["material"], "materialBindings", false⟩ true)] where
  layered := by
    refine ⟨id, Layered.observe (.addListener ?_ .plain) (by decide) ?_⟩
    · exact Layered.empty.addRetained.addFilter (by decide) _ true
    · intro index isIndex
      cases isIndex
  stacked := ⟨rfl, by decide, trivial⟩
  listens := by decide

theorem Watched.called_announces_boundCube :
    ∃ emitted, (boundCube.called 0 addingMaterial).heardFrom 0 1 =
        boundCube.heardFrom 0 1 ++ emitted ∧
      ∃ data name rest target,
        ["materialBindings", "allPurpose"] = "materialBindings" :: name :: rest ∧
        (boundCube.read (TypePruning.boundTo "materialBindings" name data)).1 = some target ∧
        ∃ batch ∈ emitted, batch.announces target = true := by
  have empty : filteredMaterials.Stores 0 .empty := ⟨by decide, rfl⟩
  have stores := empty.called addingCube
  have watched := watched_filteredMaterials.called empty addingCube
  have tree := PrimTable.IsTree.empty.foldl_edited addingCube.edits
  have isStored : (addingCube.edits.foldl PrimTable.edited .empty).prim (.absolute ["cube"] none) =
      ⟨"mesh", some boundData⟩ := by
    show (PrimTable.empty.inserted (.absolute ["cube"] none) ⟨"mesh", some boundData⟩).prim _ = _
    rw [PrimTable.IsTree.empty.prim_inserted, if_pos ⟨rfl, rfl⟩]
  rcases watched.called_announces stores tree addingMaterial with ⟨emitted, heard, announces⟩
  have isOnly : emitted = [.added [(.absolute ["mat"] none, "")]] := by
    apply List.append_cancel_left (heard.symm.trans _)
    decide +kernel
  have alike : ∀ data : Container,
      ((addingCube.edits.foldl PrimTable.edited .empty).prim (.absolute ["cube"] none)).data =
        some data →
      data.toSource.AnswersAlike boundCube.surroundings
        (boundCube.called 0 addingMaterial).surroundings (fun _ _ => True) data.toSource := by
    intro data isData
    rw [isStored] at isData
    cases isData
    exact boundData_answersAlike
  have lost : boundCube.has 1 (.absolute ["cube"] none) ⟨["materialBindings", "allPurpose"]⟩ ≠
      (boundCube.called 0 addingMaterial).has 1 (.absolute ["cube"] none)
        ⟨["materialBindings", "allPurpose"]⟩ := by decide +kernel
  refine ⟨emitted, heard, ?_⟩
  rcases announces _ _ _ trivial alike (.inr lost) with ⟨batch, member, isCube⟩ | ⟨isRoot, _⟩ |
    ⟨_, data, name, rest, target, _, isPlace, leads, _, isAnnounced | ⟨_, _, isRemoval, _⟩⟩
  · rw [isOnly, List.mem_singleton] at member
    subst member
    cases isCube
  · cases isRoot
  · exact ⟨data, name, rest, target, isPlace, leads, isAnnounced⟩
  · cases isRemoval

/-- A cube loses a binding when the material is added that it leads to, and the filter announces
only the material. So does a prim that holds what the filter shows of the cube. Nothing at all is
announced of a root that is removed with its type when there is nothing else. -/
theorem not_announces_binding :
    ((boundCube.called 0 addingMaterial).heardFrom 0 1 =
        boundCube.heardFrom 0 1 ++ [.added [(.absolute ["mat"] none, "")]] ∧
      (Batch.added [(.absolute ["mat"] none, "")]).announces (.absolute ["cube"] none) = false ∧
      boundCube.has 1 (.absolute ["cube"] none) ⟨["materialBindings", "allPurpose"]⟩ = true ∧
      (boundCube.called 0 addingMaterial).has 1 (.absolute ["cube"] none)
        ⟨["materialBindings", "allPurpose"]⟩ = false) ∧
    (((boundCube.called 0 copyingCube).called 0 addingMaterial).heardFrom 0 1 =
        (boundCube.called 0 copyingCube).heardFrom 0 1 ++
          [.added [(.absolute ["mat"] none, "")]] ∧
      (boundCube.called 0 copyingCube).has 1 (.absolute ["copy"] none)
        ⟨["cube", "materialBindings", "allPurpose"]⟩ = true ∧
      ((boundCube.called 0 copyingCube).called 0 addingMaterial).has 1 (.absolute ["copy"] none)
        ⟨["cube", "materialBindings", "allPurpose"]⟩ = false) ∧
    (((filteredMaterials.called 0 (.add [(.root, ⟨"xform", none⟩)])).called 0
          (.remove [.root])).heardFrom 0 1 =
        (filteredMaterials.called 0 (.add [(.root, ⟨"xform", none⟩)])).heardFrom 0 1 ∧
      (((filteredMaterials.called 0 (.add [(.root, ⟨"xform", none⟩)])).scene 1).prim .root).type =
        "xform" ∧
      ((((filteredMaterials.called 0 (.add [(.root, ⟨"xform", none⟩)])).called 0
          (.remove [.root])).scene 1).prim .root).type = "") := by
  decide +kernel

end Network

end LayeredScene
