import LayeredScene.Proofs.Network.Announcing

/-! # Which bindings are hidden

A type filter prunes prims and hides the bindings that lead to them. It does the one when it is
asked for a prim and the other when it is asked for a binding, and both by the same rule: a binding
is hidden just if it leads to a prim that is pruned. All other data of a prim that is not pruned is
found as it is found below the filter. -/

namespace LayeredScene

/-! ## Data with hidden bindings -/

namespace Source

def AnswersFrom (around : Surroundings) (store other : Store) (source : Source) : Prop :=
  ∀ turns question, (askedAt (some source) turns question around store).1 =
    (askedAt (some source) turns question around other).1

end Source

namespace TypePruning

variable {around : Surroundings} {member : Token} {filter : Nat} {keeps : List Nat}
variable {data : Container}

def prunesLedTo (pruning : TypePruning) (below : Scene) (target : Option Path) : Prop :=
  ∃ path, target = some path ∧ path.isEmpty = false ∧
    pruning.prunes path (below.prim path).type = true

theorem any_prunesTarget_iff (pruning : TypePruning) (below : Scene) (target : Option Path) :
    target.any (pruning.prunesTarget below) = true ↔ pruning.prunesLedTo below target := by
  rw [Option.any_eq_true]
  simp only [prunesLedTo, prunesTarget, prunes, Bool.and_eq_true, Bool.not_eq_true', and_assoc]
  constructor
  · rintro ⟨path, rfl, isPath, prunesPath, prunesType⟩
    exact ⟨path, rfl, isPath, prunesType, prunesPath⟩
  · rintro ⟨path, rfl, isPath, prunesType, prunesPath⟩
    exact ⟨path, rfl, isPath, prunesPath, prunesType⟩

/-- A binding of some data as it is met from a store: what is found under its name, and where that
leads when it is asked next. -/
structure MetBinding (around : Surroundings) (data : Container) (member name : Token)
    (store : Store) where
  entry : Source
  found : Store
  target : Option Path
  settled : Store
  isFound : data.find ⟨[member, name]⟩ around store = (some entry, found)
  leads : bindingTarget entry around found = (target, settled)

/-- Data is shown without the bindings that lead where `hides` says, and otherwise as it is. What is
found below any other binding is what that binding leads to once it has been asked for its target,
with the same answers if it does not answer differently from then on. -/
structure HidesJust (around : Surroundings) (hides : Option Path → Prop) (member : Token)
    (data shown : Container) : Prop where
  names : shown.names = data.names
  others : ∀ name rest, name ≠ member → shown.find ⟨name :: rest⟩ = data.find ⟨name :: rest⟩
  bindings : ∀ store after bindings,
    data.get member around store = (some (Container.toSource bindings), after) →
    ∃ visible : Container,
      shown.get member around store = (some visible.toSource, after) ∧
        visible.names = bindings.names
  absent : ∀ store name rest found,
    data.find ⟨[member, name]⟩ around store = (none, found) →
    shown.find ⟨member :: name :: rest⟩ around store =
      data.find ⟨member :: name :: rest⟩ around store
  hidden : ∀ store name rest (met : MetBinding around data member name store),
    hides met.target → shown.find ⟨member :: name :: rest⟩ around store = (none, met.settled)
  visible : ∀ store name rest (met : MetBinding around data member name store),
    ¬hides met.target →
    shown.find ⟨member :: name :: rest⟩ around store = met.entry.walk rest around met.settled ∧
      data.find ⟨member :: name :: rest⟩ around store = met.entry.walk rest around met.found
  answers : ∀ store name rest (met : MetBinding around data member name store),
    ¬hides met.target → met.entry.AnswersFrom around met.settled met.found →
    ∀ turns question,
      ((shown.find ⟨member :: name :: rest⟩ >>= (Source.askedAt · turns question)) around store).1 =
        ((data.find ⟨member :: name :: rest⟩ >>= (Source.askedAt · turns question)) around store).1

section Reading

variable {name : Token} {rest : List Token} {store found settled : Store}

theorem find_of_reads {result : Option Source}
    (reads : data.find ⟨[member, name]⟩ around store = (result, found)) :
    data.find ⟨member :: name :: rest⟩ around store =
      Source.walkBeyond rest result around found :=
  Source.walk_append_of_reads reads

theorem visibleData_find_of_reads {result : Option Source}
    (reads : data.find ⟨[member, name]⟩ around store = (result, found)) :
    (visibleData member filter keeps data).find ⟨member :: name :: rest⟩ around store =
      walkThrough filter rest result around found := by
  rw [visibleData_find_binding, Reads.bind_of_reads reads]

theorem walkThrough_of_leads {entry : Source} {target : Option Path}
    (leads : bindingTarget entry around found = (target, settled)) :
    walkThrough filter rest (some entry) around found =
      if target.any (around.hides filter) then (none, settled)
      else entry.walk rest around settled := by
  refine (Reads.bind_of_reads leads).trans ?_
  cases target <;> rfl

end Reading

theorem visibleData_hidesJust (around : Surroundings) (member : Token) (filter : Nat)
    (keeps : List Nat) (data : Container) :
    HidesJust around (fun target => target.any (around.hides filter) = true) member data
      (visibleData member filter keeps data) := by
  have visible : ∀ store name rest (met : MetBinding around data member name store),
      ¬met.target.any (around.hides filter) = true →
      (visibleData member filter keeps data).find ⟨member :: name :: rest⟩ around store =
          met.entry.walk rest around met.settled ∧
        data.find ⟨member :: name :: rest⟩ around store =
          met.entry.walk rest around met.found := by
    intro store name rest met shows
    rw [visibleData_find_of_reads met.isFound, find_of_reads met.isFound,
      walkThrough_of_leads met.leads, if_neg shows]
    exact ⟨rfl, rfl⟩
  refine ⟨rfl, ?_, ?_, ?_, ?_, visible, ?_⟩
  · intro name rest differs
    rw [Container.find, Container.find, Source.walk_toSource_cons, Source.walk_toSource_cons,
      visibleData_get_other differs]
  · intro store after bindings isFound
    refine ⟨visibleBindings filter keeps bindings, ?_, rfl⟩
    rw [visibleData_get_member, Reads.bind_of_reads isFound]
    rfl
  · intro store name rest found isAbsent
    rw [visibleData_find_of_reads isAbsent, find_of_reads isAbsent]
    rfl
  · intro store name rest met hides
    rw [visibleData_find_of_reads met.isFound, walkThrough_of_leads met.leads, if_pos hides]
  · intro store name rest met shows same turns question
    rcases visible store name rest met shows with ⟨shownFound, dataFound⟩
    have asked : ∀ (container : Container) before,
        container.find ⟨member :: name :: rest⟩ around store = met.entry.walk rest around before →
        (container.find ⟨member :: name :: rest⟩ >>= (Source.askedAt · turns question)) around
            store =
          Source.askedAt (some met.entry) (rest.map .member ++ turns) question around before := by
      intro container before found
      rw [← Source.askedAt_walk, Reads.bind_of_reads found]
      rfl
    rw [asked _ _ shownFound, asked _ _ dataFound]
    exact same _ question

end TypePruning

/-! ## What a type filter shows -/

namespace Network

variable {network : Network} {rank : Nat → Nat} {number input : Nat} {pruning : TypePruning}
variable {path : Path} {type : Token} {data : Container}

theorem hides_of_filter
    (isFilter : (network.node number).index = .filter input (.types pruning true)) :
    network.surroundings.hides number = pruning.prunesTarget (network.scene input) := by
  funext target
  rw [hides_surroundings, hides, isFilter]

/-- An active type filter that is configured with a member for bindings shows a prim that it does
not prune with all its data but for the bindings that lead to prims it does prune. -/
theorem Layered.hides_bindings_to_pruned (layered : network.Layered rank)
    (isFilter : (network.node number).index = .filter input (.types pruning true))
    (binds : pruning.binding.isEmpty = false)
    (below : (network.scene input).prim path = ⟨type, some data⟩)
    (unpruned : pruning.prunes path type = false) :
    ∃ shown, (network.scene number).prim path = ⟨type, some shown⟩ ∧
      TypePruning.HidesJust network.surroundings (pruning.prunesLedTo (network.scene input))
        pruning.binding data shown := by
  refine ⟨TypePruning.visibleData pruning.binding number [input] data, ?_, ?_⟩
  · rw [layered.scene_filter isFilter]
    show pruning.prunedPrim number [input] path ((network.scene input).prim path) = _
    rw [below, TypePruning.prunedPrim, unpruned, binds]
    rfl
  · have sameRule : (fun target : Option Path =>
        target.any (network.surroundings.hides number) = true) =
          pruning.prunesLedTo (network.scene input) := by
      funext target
      rw [hides_of_filter isFilter]
      exact propext (pruning.any_prunesTarget_iff (network.scene input) target)
    rw [← sameRule]
    exact TypePruning.visibleData_hidesJust network.surroundings pruning.binding number [input] data

def twiceBoundData : Container :=
  .retained (.whole 1) [("visibility", some (.sampled (.constantOf (.whole 6) (.single .bool) true))),
    ("materialBindings", some (Container.retained (.whole 2)
      [("allPurpose", some (Container.retained (.whole 3)
        [("path", some (.sampled (.constantOf (.whole 4) (.single .path)
          (.absolute ["mat"] none))))]).toSource),
      ("preview", some (.sampled (.constantOf (.whole 5) (.single .path)
        (.absolute ["look"] none))))]).toSource)]

def addingTwiceBound : SceneCall :=
  .add [(.absolute ["mat"] none, ⟨"material", none⟩), (.absolute ["look"] none, ⟨"xform", none⟩),
    (.absolute ["cube"] none, ⟨"mesh", some twiceBoundData⟩)]

def twiceBound : Network := filteredMaterials.called 0 addingTwiceBound

theorem metBinding_twiceBoundData (around : Surroundings) (store : Store) :
    (∃ met : TypePruning.MetBinding around twiceBoundData "materialBindings" "allPurpose" store,
        met.target = some (.absolute ["mat"] none)) ∧
      ∃ met : TypePruning.MetBinding around twiceBoundData "materialBindings" "preview" store,
        met.target = some (.absolute ["look"] none) ∧ met.settled = met.found :=
  ⟨⟨⟨_, _, _, _, rfl, rfl⟩, rfl⟩, ⟨⟨_, _, _, _, rfl, rfl⟩, rfl, rfl⟩⟩

theorem Layered.hides_bindings_to_pruned_twiceBound :
    (twiceBound.node 1).index =
        .filter 0 (.types ⟨["material"], "materialBindings", false⟩ true) ∧
      (twiceBound.scene 0).prim (.absolute ["cube"] none) = ⟨"mesh", some twiceBoundData⟩ ∧
    ∃ shown, (twiceBound.scene 1).prim (.absolute ["cube"] none) = ⟨"mesh", some shown⟩ ∧
      (shown.find ⟨["materialBindings", "allPurpose"]⟩ twiceBound.surroundings
        twiceBound.store).1 = none ∧
      shown.find ⟨["materialBindings", "preview"]⟩ twiceBound.surroundings twiceBound.store =
        twiceBoundData.find ⟨["materialBindings", "preview"]⟩ twiceBound.surroundings
          twiceBound.store := by
  have empty : filteredMaterials.Stores 0 .empty := ⟨by decide, rfl⟩
  obtain ⟨rank, layered⟩ : ∃ rank, twiceBound.Layered rank :=
    (watched_filteredMaterials.called empty addingTwiceBound).layered
  have isFilter : (twiceBound.node 1).index =
      .filter 0 (.types ⟨["material"], "materialBindings", false⟩ true) := rfl
  have isStored : (twiceBound.scene 0).prim (.absolute ["cube"] none) =
      ⟨"mesh", some twiceBoundData⟩ := by
    rw [twiceBound, (empty.called addingTwiceBound).scene]
    have tree := PrimTable.IsTree.empty.foldl_edited (addingTwiceBound.edits.take 2)
    exact (tree.prim_inserted (.absolute ["cube"] none) ⟨"mesh", some twiceBoundData⟩
      (.absolute ["cube"] none)).trans (if_pos ⟨rfl, rfl⟩)
  have isMaterial : ((twiceBound.scene 0).prim (.absolute ["mat"] none)).type = "material" := by
    decide +kernel
  have isLook : ((twiceBound.scene 0).prim (.absolute ["look"] none)).type = "xform" := by
    decide +kernel
  rcases metBinding_twiceBoundData twiceBound.surroundings twiceBound.store with
    ⟨⟨bound, toMaterial⟩, ⟨preview, toLook, unchanged⟩⟩
  rcases layered.hides_bindings_to_pruned isFilter (by decide) isStored (by decide) with
    ⟨shown, isShown, hidesJust⟩
  refine ⟨isFilter, isStored, shown, isShown, ?_, ?_⟩
  · rw [hidesJust.hidden _ _ [] bound ⟨_, toMaterial, rfl, by rw [isMaterial]; decide⟩]
  · have shows : ¬TypePruning.prunesLedTo ⟨["material"], "materialBindings", false⟩
        (twiceBound.scene 0) preview.target := by
      rintro ⟨path, leads, -, pruned⟩
      cases toLook.symm.trans leads
      rw [isLook] at pruned
      exact absurd pruned (by decide)
    rcases hidesJust.visible _ _ [] preview shows with ⟨isVisible, isBelow⟩
    rw [isVisible, isBelow, unchanged]

end Network

end LayeredScene
