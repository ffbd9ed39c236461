import LayeredScene.Proofs.Delegate.Twins
import Mathlib.Data.List.Induction

/-! # Members of prims with a twin

All that the data of a prim is made of is the same in its twin. Most members only ask the delegate;
the others come from what is remembered, which is up to date in both.
-/

namespace LayeredScene

namespace Twins

variable {α : Type} {twins : Twins} {before : Store → Store → Prop}

namespace Steady

variable (steady : twins.Steady before)
include steady

theorem finds_asking {read : Reads α} {proceed twinProceed : α → Reads (Option Source)}
    (plain : read.IsPlain twins.around)
    (finds : ∀ answer, twins.Finds before (proceed answer) (twinProceed answer)) :
    twins.Finds before (read >>= proceed) (read >>= twinProceed) :=
  (steady.plain plain).lockstep_bind finds

theorem from_passing {names : List Token} {get twinGet : Token → Reads (Option Source)}
    (members : ∀ name, twins.Finds before (get name) (twinGet name)) :
    twins.From before (Container.passing names get).toSource
      (Container.passing names twinGet).toSource :=
  steady.from_container (steady.yields_pure names) members

theorem finds_passing {names : List Token} {get twinGet : Token → Reads (Option Source)}
    (members : ∀ name, twins.Finds before (get name) (twinGet name)) :
    twins.Finds before (Container.passing names get).found
      (Container.passing names twinGet).found :=
  steady.from_passing members

/-! ## Members that are asked for -/

theorem finds_extent (prim : DelegatedPrim) : twins.Finds before prim.extent prim.extent :=
  steady.finds_asking (.ask rfl) fun _ => steady.finds_found <| steady.makes_present <|
    .cons ⟨rfl, steady.makes_constantOf _ _⟩ <| .cons ⟨rfl, steady.makes_constantOf _ _⟩ .nil

theorem makes_categories (categories : List Token) :
    twins.Makes before (categoriesBlueprint categories) (categoriesBlueprint categories) :=
  steady.makes_present <| .cons ⟨rfl, steady.makes_constantOf _ _⟩ .nil

theorem finds_categories (prim : DelegatedPrim) :
    twins.Finds before prim.categories prim.categories := by
  refine steady.finds_asking (.ask rfl) fun categories => ?_
  split
  · exact steady.finds_none
  · exact steady.finds_found (steady.makes_categories categories)

theorem finds_instancedBy (prim : DelegatedPrim) :
    twins.Finds before prim.instancedBy prim.instancedBy := by
  refine steady.finds_asking (.ask rfl) fun instancer => ?_
  split
  · exact steady.finds_none
  · exact steady.finds_found <| steady.makes_present <|
      .cons ⟨rfl, steady.makes_constantOf _ _⟩ .nil

theorem finds_coordSysBinding (prim : DelegatedPrim) :
    twins.Finds before prim.coordSysBinding prim.coordSysBinding := by
  refine steady.finds_asking (.ask rfl) fun systems => ?_
  split
  · exact steady.finds_none
  · refine steady.finds_found (steady.makes_present_self ?_)
    intro entry isEntry
    rcases List.mem_map.mp isEntry with ⟨path, -, rfl⟩
    exact steady.makes_constantOf _ _

theorem finds_boundMaterial (prim : DelegatedPrim) :
    twins.Finds before prim.boundMaterial prim.boundMaterial := by
  refine steady.finds_asking (.ask rfl) fun material => ?_
  split
  · exact steady.finds_none
  · exact steady.finds_found <| steady.makes_present <| .cons ⟨rfl, steady.makes_present <|
      .cons ⟨rfl, steady.makes_constantOf _ _⟩ .nil⟩ .nil

theorem makes_connection (node : Path) (output : Token) :
    twins.Makes before (connection node output) (connection node output) :=
  steady.makes_present <| .cons ⟨rfl, steady.makes_constantOf _ _⟩ <|
    .cons ⟨rfl, steady.makes_constantOf _ _⟩ .nil

omit steady in
theorem forall_addByName {holds : α → Prop} {name : Token} {element : α}
    {entries : List (Token × List α)} (isElement : holds element)
    (areEntries : ∀ entry ∈ entries, ∀ element ∈ entry.2, holds element) :
    ∀ entry ∈ addByName name element entries, ∀ element ∈ entry.2, holds element := by
  induction entries with
  | nil => simpa [addByName] using isElement
  | cons first rest induction =>
      rcases List.forall_mem_cons.mp areEntries with ⟨isFirst, areRest⟩
      rw [addByName]
      split
      · refine List.forall_mem_cons.mpr ⟨?_, areRest⟩
        intro added isAdded
        rcases List.mem_append.mp isAdded with isOld | isNew
        · exact isFirst added isOld
        · exact List.mem_singleton.mp isNew ▸ isElement
      · exact List.forall_mem_cons.mpr ⟨isFirst, induction areRest⟩

theorem makes_connectionsInto (node : Path) (relationships : List MaterialRelationship) :
    ∀ input ∈ connectionsInto node relationships, ∀ blueprint ∈ input.2,
      twins.Makes before blueprint blueprint := by
  rw [connectionsInto]
  induction relationships.filter (·.outputNode = node) using List.reverseRecOn with
  | nil => simp
  | append_singleton others last induction =>
      rw [List.foldl_concat]
      exact forall_addByName (steady.makes_connection _ _) induction

theorem makes_node (node : MaterialNode) (relationships : List MaterialRelationship) :
    twins.Makes before (nodeBlueprint node relationships) (nodeBlueprint node relationships) := by
  have parameters : twins.Makes before
      (.present (node.parameters.map fun parameter =>
        (parameter.1, .present [("value", .ofValue parameter.2)])))
      (.present (node.parameters.map fun parameter =>
        (parameter.1, .present [("value", .ofValue parameter.2)]))) := by
    refine steady.makes_present_self fun entry isEntry => ?_
    rcases List.mem_map.mp isEntry with ⟨parameter, -, rfl⟩
    exact steady.makes_present (.cons ⟨rfl, steady.makes_ofValue _⟩ .nil)
  have connections : twins.Makes before
      (.present ((connectionsInto node.path relationships).map fun input =>
        (input.1, .elements (input.2.map some))))
      (.present ((connectionsInto node.path relationships).map fun input =>
        (input.1, .elements (input.2.map some)))) := by
    refine steady.makes_present_self fun entry isEntry => ?_
    rcases List.mem_map.mp isEntry with ⟨input, isInput, rfl⟩
    exact steady.makes_elements (steady.makes_connectionsInto node.path relationships input isInput)
  exact steady.makes_present <| .cons ⟨rfl, steady.makes_constantOf _ _⟩ <|
    .cons ⟨rfl, parameters⟩ <| .cons ⟨rfl, connections⟩ .nil

theorem makes_addNodes {placed : List (Token × Blueprint)} (network : MaterialNetwork)
    (same : ∀ entry ∈ placed, twins.Makes before entry.2 entry.2) :
    ∀ entry ∈ addNodes placed network, twins.Makes before entry.2 entry.2 := by
  rw [addNodes]
  induction network.nodes using List.reverseRecOn with
  | nil => exact same
  | append_singleton others last induction =>
      rw [List.foldl_concat]
      split
      · exact induction
      · intro entry isEntry
        rcases List.mem_append.mp isEntry with isOld | isNew
        · exact induction entry isOld
        · rw [List.mem_singleton.mp isNew]
          exact steady.makes_node last network.relationships

theorem makes_material (networks : List (Token × MaterialNetwork)) :
    twins.Makes before (materialBlueprint networks) (materialBlueprint networks) := by
  have nodes : ∀ entry ∈ networks.foldl (fun placed terminal => addNodes placed terminal.2) [],
      twins.Makes before entry.2 entry.2 := by
    induction networks using List.reverseRecOn with
    | nil => simp
    | append_singleton others last induction =>
        rw [List.foldl_concat]
        exact steady.makes_addNodes last.2 induction
  have terminals : ∀ entry ∈ terminalsOf networks, twins.Makes before entry.2 entry.2 := by
    intro entry isEntry
    rcases List.mem_filterMap.mp isEntry with ⟨terminal, -, isTerminal⟩
    rcases Option.map_eq_some_iff.mp isTerminal with ⟨node, -, rfl⟩
    exact steady.makes_connection _ _
  exact steady.makes_present <| .cons ⟨rfl, steady.makes_present <|
    .cons ⟨rfl, steady.makes_present_self nodes⟩ <|
    .cons ⟨rfl, steady.makes_present_self terminals⟩ .nil⟩ .nil

theorem finds_material (prim : DelegatedPrim) : twins.Finds before prim.material prim.material := by
  refine steady.finds_asking (.ask rfl) fun networks => ?_
  split
  · exact steady.finds_found (steady.makes_material _)
  · exact steady.finds_none

theorem finds_display (prim : ServedPrim) :
    twins.Finds before prim.displayContainer.found prim.displayContainer.found := by
  have flag : ∀ flag, twins.Finds before (prim.displayFlag flag) (prim.displayFlag flag) :=
    fun flag => steady.finds_asking (.ask rfl) fun style =>
      steady.finds_found (steady.makes_constantOf _ _)
  refine steady.finds_passing fun name => ?_
  refine .ite (fun _ => ?level) fun _ => .ite (fun _ => flag _) fun _ => .ite (fun _ => flag _)
    fun _ => .ite (fun _ => flag _) fun _ => .ite (fun _ => flag _) fun _ => .ite (fun _ => flag _)
    fun _ => .ite (fun _ => ?shading) fun _ => .ite (fun _ => ?selector) fun _ =>
    .ite (fun _ => ?cull) fun _ => steady.finds_none
  case level =>
    exact steady.finds_asking (.ask rfl) fun style => .ite
      (fun _ => steady.finds_found (steady.makes_constantOf _ _)) fun _ => steady.finds_none
  case shading =>
    exact steady.finds_asking (.ask rfl) fun style => .ite (fun _ => steady.finds_none)
      fun _ => steady.finds_found (steady.makes_constantOf _ _)
  case selector =>
    exact steady.finds_asking (.ask rfl) fun selector => .ite
      (fun _ => steady.finds_found (steady.makes_constantOf _ _)) fun _ => steady.finds_none
  case cull =>
    refine steady.finds_asking (.ask rfl) fun style => ?_
    split
    · exact steady.finds_found (steady.makes_constantOf _ _)
    · exact steady.finds_none

theorem finds_volumeField (prim : ServedPrim) :
    twins.Finds before prim.volumeFieldContainer.found prim.volumeFieldContainer.found := by
  refine steady.finds_passing fun name => steady.finds_asking (.ask rfl) fun value => ?_
  split
  · exact steady.finds_none
  · exact steady.finds_found (steady.makes_ofValue value)

theorem finds_volumeFieldBinding (prim : ServedPrim) :
    twins.Finds before prim.volumeFieldBinding prim.volumeFieldBinding := by
  refine steady.finds_asking (.ask rfl) fun fields => ?_
  split
  · exact steady.finds_none
  · refine steady.finds_found (steady.makes_present_self fun entry isEntry => ?_)
    rcases List.mem_map.mp isEntry with ⟨field, -, rfl⟩
    exact steady.makes_constantOf _ _

theorem finds_light (prim : ServedPrim) :
    twins.Finds before prim.lightContainer.found prim.lightContainer.found := by
  refine steady.finds_passing fun name => ?_
  split
  · exact steady.finds_asking (.ask rfl) fun value =>
      steady.finds_found (steady.makes_constant value)
  · exact steady.finds_asking (.ask rfl) fun value =>
      steady.finds_found (steady.makes_ofValue value)

omit steady in
theorem isPlain_isLight (prim : DelegatedPrim) : prim.isLight.IsPlain twins.around := by
  rw [DelegatedPrim.isLight]
  split
  · exact .pure true
  · exact .map _ (.ask rfl)

theorem finds_collectionsOf (prim : ServedPrim) (parameters : List (Token × Token)) :
    twins.Finds before (prim.collectionsContainer parameters).found
      (prim.collectionsContainer parameters).found := by
  refine steady.finds_passing fun name => ?_
  split
  · refine steady.finds_asking (.ask rfl) fun value => ?_
    split
    · exact steady.finds_found <| steady.makes_present <|
        .cons ⟨rfl, steady.makes_constantOf _ _⟩ .nil
    · exact steady.finds_none
  · exact steady.finds_none

theorem finds_collections (prim : DelegatedPrim) :
    twins.Finds before prim.collections prim.collections := by
  refine steady.finds_asking (isPlain_isLight prim) fun isLight => ?_
  split
  · exact steady.finds_collectionsOf _ _
  split
  · exact steady.finds_collectionsOf _ _
  · exact steady.finds_none

theorem finds_cameraParameter (prim : ServedPrim) (type : ValueType) (name : Token) :
    twins.Finds before (prim.typedCameraParameter type name).found
      (prim.typedCameraParameter type name).found :=
  steady.finds_found <| steady.makes_lazyOf <| steady.yields <| steady.plain <| .map _ (.ask rfl)

theorem finds_cameraParameterGroup (prim : ServedPrim) (group : Token) (names : List Token) :
    twins.Finds before (prim.cameraParameterGroup group names).found
      (prim.cameraParameterGroup group names).found := by
  refine steady.finds_passing fun name => ?_
  split
  · exact steady.finds_cameraParameter _ _ _
  · exact steady.finds_none

theorem finds_camera (prim : ServedPrim) :
    twins.Finds before prim.cameraContainer.found prim.cameraContainer.found := by
  have answered : ∀ (type : ValueType) (use : Value → type.Content) (name : Token),
      twins.Finds before (Blueprint.lazyOf type (use <$> prim.cameraParameter name)).found
        (Blueprint.lazyOf type (use <$> prim.cameraParameter name)).found := fun _ _ _ =>
    steady.finds_found <| steady.makes_lazyOf <| steady.yields <| steady.plain <| .map _ (.ask rfl)
  refine steady.finds_passing fun name => ?_
  refine .ite (fun _ => answered (.single .token) projection "projection") fun _ => ?_
  refine .ite (fun _ => answered (.single .float2) clippingRange "clippingRange") fun _ => ?_
  refine .ite (fun _ => steady.finds_cameraParameter _ _ _) fun _ => ?_
  refine .ite (fun _ => steady.finds_cameraParameter _ _ _) fun _ => ?_
  refine .ite (fun _ => steady.finds_cameraParameter _ _ _) fun _ => ?_
  refine .ite (fun _ => steady.finds_cameraParameterGroup _ _ _) fun _ => ?_
  refine .ite (fun _ => steady.finds_cameraParameterGroup _ _ _) fun _ => ?_
  refine .ite (fun _ => steady.finds_cameraParameter _ _ _) fun _ => ?_
  exact steady.finds_found (steady.makes_lazy (.ask rfl))

theorem finds_renderBuffer (prim : ServedPrim) :
    twins.Finds before prim.renderBufferContainer.found prim.renderBufferContainer.found := by
  have constant : ∀ (type : ValueType) (field : RenderBuffer → type.Content), twins.Finds before
      (do (Blueprint.constantOf type (field (← prim.renderBuffer))).found)
      (do (Blueprint.constantOf type (field (← prim.renderBuffer))).found) := fun type field =>
    steady.finds_asking (.ask rfl) fun _ => steady.finds_found (steady.makes_constantOf _ _)
  refine steady.finds_passing fun name => ?_
  refine .ite (fun _ => constant (.single .int3) (·.dimensions)) fun _ => ?_
  refine .ite (fun _ => constant (.single .token) (·.format)) fun _ => ?_
  refine .ite (fun _ => constant (.single .bool) (·.multiSampled)) fun _ => ?_
  exact steady.finds_found (steady.makes_lazy (.ask rfl))

theorem makes_renderVar (var : RenderVar) :
    twins.Makes before (renderVarBlueprint var) (renderVarBlueprint var) :=
  steady.makes_present <| .cons ⟨rfl, steady.makes_constantOf _ _⟩ <|
    .cons ⟨rfl, steady.makes_constantOf _ _⟩ <| .cons ⟨rfl, steady.makes_constantOf _ _⟩ <|
    .cons ⟨rfl, steady.makes_constantOf _ _⟩ <| .cons ⟨rfl, steady.makes_ofDictionary _⟩ .nil

theorem makes_renderProduct (product : RenderProduct) :
    twins.Makes before (renderProductBlueprint product) (renderProductBlueprint product) := by
  refine steady.makes_present_self ?_
  simp only [List.forall_mem_cons, List.not_mem_nil, false_imp_iff, implies_true, and_true]
  refine ⟨steady.makes_constantOf _ _, steady.makes_constantOf _ _, steady.makes_constantOf _ _,
    steady.makes_constantOf _ _, ?_, steady.makes_constantOf _ _, steady.makes_constantOf _ _,
    steady.makes_constantOf _ _, steady.makes_constantOf _ _, steady.makes_constantOf _ _,
    steady.makes_constantOf _ _, steady.makes_constantOf _ _, steady.makes_ofDictionary _⟩
  exact steady.makes_elements fun var _ => steady.makes_renderVar var

theorem makes_renderSetting {name : Token} {value : Value} {blueprint : Blueprint}
    (isSetting : renderSetting? name value = some blueprint) :
    twins.Makes before blueprint blueprint := by
  unfold renderSetting? at isSetting
  split at isSetting
  · split at isSetting <;> cases isSetting
    exact steady.makes_ofDictionary _
  split at isSetting
  · split at isSetting <;> cases isSetting
    exact steady.makes_elements fun product _ => steady.makes_renderProduct product
  split at isSetting
  · split at isSetting <;> cases isSetting
    exact steady.makes_ofValue _
  split at isSetting
  · split at isSetting <;> cases isSetting
    exact steady.makes_ofValue _
  · cases isSetting
    exact steady.makes_constant value

theorem finds_renderSettings (prim : ServedPrim) :
    twins.Finds before prim.renderSettingsContainer.found prim.renderSettingsContainer.found := by
  refine steady.finds_passing fun name => steady.finds_asking (.ask rfl) fun value => ?_
  split
  · rename_i isSetting
    exact steady.finds_found (steady.makes_renderSetting isSetting)
  · exact steady.finds_none

theorem finds_renderResource (prim : ServedPrim) :
    twins.Finds before prim.renderResource prim.renderResource := by
  refine steady.finds_asking (.ask rfl) fun value => ?_
  have resource : ∀ {resource : Blueprint}, twins.Makes before resource resource →
      twins.Finds before (Blueprint.present [("resource", resource)]).found
        (Blueprint.present [("resource", resource)]).found :=
    fun makes => steady.finds_found (steady.makes_present (.cons ⟨rfl, makes⟩ .nil))
  dsimp only
  split
  · rename_i blueprint isResource
    split at isResource <;> cases isResource
    · exact resource (steady.makes_node _ _)
    · exact resource (steady.makes_constant _)
  · exact steady.finds_none

theorem finds_drawTarget (prim : ServedPrim) :
    twins.Finds before prim.drawTargetContainer.found prim.drawTargetContainer.found :=
  steady.finds_passing fun _ => steady.finds_found (steady.makes_lazy (.ask rfl))

end Steady

/-! ## Members that fetch samples -/

section Sampled

variable {numbers : List (Nat × Nat)} {number twinNumber : Nat} (prim : ServedPrim) (key : Token)
  (isGiven : (number, twinNumber) ∈ numbers)
include isGiven

omit isGiven in
theorem isPlain_askSamples {query : Query} {authored : PrimAnswers → Option (List (Float32 × α))}
    {untimed : Reads α} {limit : Option Nat} (unremembered : query.isRemembered = false)
    (plain : untimed.IsPlain twins.around) :
    (prim.askSamples query authored untimed limit).IsPlain twins.around := by
  refine .bind (.ask unremembered) fun samples => ?_
  cases samples with
  | some samples => exact .pure _
  | none => exact plain.bind fun value => .pure _

theorem yields_valueSamples :
    twins.Yields (twins.Minted numbers) (prim.valueSamples key number)
      (prim.valueSamples key twinNumber) :=
  yields_remembered (Slot.isSampled_fetched .values) (isPlain_askSamples prim rfl (.ask rfl))
    isGiven

theorem yields_valueAt (time : Float32) :
    twins.Yields (twins.Minted numbers) (prim.valueAt key number time)
      (prim.valueAt key twinNumber time) := by
  rw [ServedPrim.valueAt, ServedPrim.valueAt]
  split
  · refine (steady_minted numbers).yields ((steady_minted numbers).plain ?_)
    refine .bind (.ask rfl) fun value => ?_
    split
    · exact .bind (isPlain_askSamples prim rfl (.ask rfl)) fun samples => .pure _
    · exact .pure _
  · exact (yields_valueSamples prim key isGiven).bind fun samples => yields_bracketed _

theorem makes_primvarValue :
    twins.Makes (twins.Minted numbers) (prim.primvarValue key number)
      (prim.primvarValue key twinNumber) :=
  fun _ _ => (steady_minted numbers).from_ofType (yields_valueAt prim key isGiven)
    fun start finish => (yields_valueSamples prim key isGiven).map
      (·.contributingTimes start finish)

omit isGiven in
theorem isPlain_sampleIndexedValue (limit : Option Nat) :
    (prim.sampleIndexedValue key limit).IsPlain twins.around := by
  refine .bind (.ask rfl) fun samples => ?_
  cases samples with
  | some samples => exact .pure _
  | none =>
      refine .bind (.ask rfl) fun value => ?_
      split
      split <;> exact .pure _

theorem yields_indexedSamples :
    twins.Yields (twins.Minted numbers) (prim.indexedSamples key number)
      (prim.indexedSamples key twinNumber) :=
  yields_remembered (Slot.isSampled_fetched .indexedValues)
    (isPlain_sampleIndexedValue prim key none) isGiven

theorem yields_indexedValueAt (time : Float32) :
    twins.Yields (twins.Minted numbers) (prim.indexedValueAt key number time)
      (prim.indexedValueAt key twinNumber time) := by
  rw [ServedPrim.indexedValueAt, ServedPrim.indexedValueAt]
  split
  · exact (steady_minted numbers).yields ((steady_minted numbers).plain (.ask rfl))
  · exact (yields_indexedSamples prim key isGiven).bind fun samples => yields_bracketed _

theorem yields_indexedTimes (start finish : Float32) :
    twins.Yields (twins.Minted numbers) (prim.indexedTimes key number start finish)
      (prim.indexedTimes key twinNumber start finish) :=
  (yields_indexedSamples prim key isGiven).map fun samples =>
    some ((samples.contributingTimes start finish).getD [])

theorem makes_indexedPrimvarValue :
    twins.Makes (twins.Minted numbers) (prim.indexedPrimvarValue key number)
      (prim.indexedPrimvarValue key twinNumber) :=
  fun _ _ => (steady_minted numbers).from_untyped
    (fun time => (yields_indexedValueAt prim key isGiven time).map (·.1))
    (yields_indexedTimes prim key isGiven)

theorem makes_primvarIndices :
    twins.Makes (twins.Minted numbers) (prim.primvarIndices key number)
      (prim.primvarIndices key twinNumber) :=
  fun _ _ => (steady_minted numbers).from_ofType
    (fun time => (yields_indexedValueAt prim key isGiven time).map (·.2))
    (yields_indexedTimes prim key isGiven)

theorem makes_computationInputValue :
    twins.Makes (twins.Minted numbers) (prim.computationInputValue key number)
      (prim.computationInputValue key twinNumber) := by
  have samples : twins.Yields (twins.Minted numbers) (prim.computationInputSamples key number)
      (prim.computationInputSamples key twinNumber) :=
    yields_remembered (Slot.isSampled_fetched .values) (isPlain_askSamples prim rfl (.ask rfl))
      isGiven
  refine fun _ _ => (steady_minted numbers).from_untyped (fun time => ?_)
    fun start finish => samples.map (·.contributingTimes start finish)
  split
  · exact (steady_minted numbers).yields ((steady_minted numbers).plain (.ask rfl))
  · exact samples.bind fun samples => yields_bracketed _

omit isGiven in
theorem isPlain_transform (ofInstancer : Bool) :
    (prim.transform ofInstancer).IsPlain twins.around := by
  cases ofInstancer <;> exact .ask rfl

omit isGiven in
theorem isPlain_sampleTransform (ofInstancer : Bool) (limit : Option Nat) :
    (prim.sampleTransform ofInstancer limit).IsPlain twins.around := by
  cases ofInstancer <;> exact isPlain_askSamples prim rfl (isPlain_transform prim _)

theorem makes_transformMatrix (ofInstancer : Bool) :
    twins.Makes (twins.Minted numbers) (prim.transformMatrix ofInstancer number)
      (prim.transformMatrix ofInstancer twinNumber) := by
  have samples : twins.Yields (twins.Minted numbers) (prim.transformSamples ofInstancer number)
      (prim.transformSamples ofInstancer twinNumber) :=
    yields_remembered (Slot.isSampled_fetched .matrices)
      (isPlain_sampleTransform prim ofInstancer none) isGiven
  refine fun _ _ => (steady_minted numbers).from_ofType (fun time => ?_)
    fun start finish => samples.map (·.contributingTimes start finish)
  rw [ServedPrim.transformAt, ServedPrim.transformAt]
  split
  · exact (steady_minted numbers).yields
      ((steady_minted numbers).plain (isPlain_transform prim ofInstancer))
  · exact samples.bind fun samples => @yields_bracketed Matrix twins ⟨identityMatrix⟩ _

end Sampled

theorem finds_xform (prim : DelegatedPrim) (numbers : List (Nat × Nat)) :
    twins.Finds (twins.Minted numbers) prim.xform prim.xform := by
  refine finds_minting fun number twinNumber => ?_
  have steady : twins.Steady (twins.Minted ((number, twinNumber) :: numbers)) := steady_minted _
  exact steady.finds_found <| steady.makes_present <|
    .cons ⟨rfl, makes_transformMatrix prim.toServedPrim List.mem_cons_self _⟩ <|
    .cons ⟨rfl, steady.makes_constantOf _ _⟩ .nil

theorem lockstep_computationInputs (prim : ServedPrim) (names : List Token)
    (numbers : List (Nat × Nat)) :
    Lockstep twins.around twins.around (twins.Minted numbers)
      (Reads.each (fun name => do
        let number ← Reads.newNumber
        return (name, prim.computationInputValue name number)) names)
      (Reads.each (fun name => do
        let number ← Reads.newNumber
        return (name, prim.computationInputValue name number)) names)
      fun entries twinEntries store twinStore => ∃ more, numbers ⊆ more ∧
        twins.Minted more store twinStore ∧
        List.Forall₂ (fun entry twinEntry =>
          entry.1 = twinEntry.1 ∧ twins.Makes (twins.Minted more) entry.2 twinEntry.2)
          entries twinEntries := by
  generalize makes : (fun name => do
    let number ← Reads.newNumber
    return (name, prim.computationInputValue name number)) = make
  induction names generalizing numbers with
  | nil => exact fun store twinStore minted => ⟨numbers, List.Subset.refl _, minted, .nil⟩
  | cons name names induction =>
      have first : ∀ store, make name twins.around store =
          ((name, prim.computationInputValue name store.next),
            { store with next := store.next + 1 }) := by
        intro store
        rw [← makes]
        rfl
      intro store twinStore minted
      rcases induction _ _ _ minted.newNumber with ⟨more, isMore, mintedMore, same⟩
      rcases List.cons_subset.mp isMore with ⟨isGiven, isMore⟩
      simp only [Reads.each, bind, Pure.pure, first]
      exact ⟨more, isMore, mintedMore,
        .cons ⟨rfl, makes_computationInputValue prim name isGiven⟩ same⟩

theorem finds_computationInputValues (prim : ServedPrim) (numbers : List (Nat × Nat)) :
    twins.Finds (twins.Minted numbers) prim.computationInputValues prim.computationInputValues := by
  refine (steady_minted numbers).finds_asking (.ask rfl) fun names => ?_
  refine Lockstep.bind (lockstep_computationInputs prim names numbers)
    fun entries twinEntries store twinStore given => ?_
  rcases given with ⟨more, -, minted, same⟩
  exact (steady_minted more).finds_found ((steady_minted more).makes_present same) store twinStore
    minted

theorem finds_computation (prim : ServedPrim) (numbers : List (Nat × Nat)) :
    twins.Finds (twins.Minted numbers) prim.computationContainer.found
      prim.computationContainer.found := by
  have steady : twins.Steady (twins.Minted numbers) := steady_minted numbers
  refine steady.finds_passing fun name => ?_
  split
  · exact finds_computationInputValues prim numbers
  split
  · refine steady.finds_asking (.ask rfl) fun inputs => ?_
    refine steady.finds_found (steady.makes_present_self fun entry isEntry => ?_)
    rcases List.mem_map.mp isEntry with ⟨input, -, rfl⟩
    exact steady.makes_present <| .cons ⟨rfl, steady.makes_constantOf _ _⟩ <|
      .cons ⟨rfl, steady.makes_constantOf _ _⟩ .nil
  split
  · refine steady.finds_asking (.ask rfl) fun outputs => ?_
    refine steady.finds_found (steady.makes_present_self fun entry isEntry => ?_)
    rcases List.mem_map.mp isEntry with ⟨output, -, rfl⟩
    exact steady.makes_present (.cons ⟨rfl, steady.makes_constantOf _ _⟩ .nil)
  split
  · exact steady.finds_found <| steady.makes_lazyOf <| steady.yields <| steady.plain (.ask rfl)
  split
  · exact steady.finds_found <| steady.makes_lazyOf <| steady.yields <| steady.plain <|
      .map _ (.ask rfl)
  · exact steady.finds_none

theorem finds_instanceCategories (prim : ServedPrim) (numbers : List (Nat × Nat)) :
    twins.Finds (twins.Minted numbers) prim.instanceCategoriesContainer.found
      prim.instanceCategoriesContainer.found := by
  refine (steady_minted numbers).finds_passing fun name => ?_
  split
  · refine finds_minting fun number twinNumber => ?_
    have once : twins.Yields (twins.Minted ((number, twinNumber) :: numbers))
        (prim.instanceCategoriesOnce number) (prim.instanceCategoriesOnce twinNumber) :=
      yields_remembered (Slot.isSampled_fetched .categories) (.ask rfl) List.mem_cons_self
    refine (steady_minted _).from_vector (once.map List.length) fun position => ?_
    refine once.finds fun categories => ?_
    split
    · exact steady_done.finds_found (steady_done.makes_categories _)
    · exact steady_done.finds_none
  · exact (steady_minted numbers).finds_none

/-! ## Members that are remembered -/

theorem finds_primvar (prim : ServedPrim) (descriptor : PrimvarDescriptor)
    (numbers : List (Nat × Nat)) :
    twins.Finds (twins.Minted numbers) (prim.primvar descriptor) (prim.primvar descriptor) := by
  refine finds_minting fun number twinNumber => ?_
  have steady : twins.Steady (twins.Minted ((number, twinNumber) :: numbers)) := steady_minted _
  have isGiven : (number, twinNumber) ∈ (number, twinNumber) :: numbers := List.mem_cons_self
  dsimp only
  split
  · exact steady.finds_found <| steady.makes_present <|
      .cons ⟨rfl, makes_indexedPrimvarValue prim descriptor.name isGiven⟩ <|
      .cons ⟨rfl, makes_primvarIndices prim descriptor.name isGiven⟩ <|
      .cons ⟨rfl, steady.makes_constantOf _ _⟩ <| .cons ⟨rfl, steady.makes_constantOf _ _⟩ .nil
  · exact steady.finds_found <| steady.makes_present <|
      .cons ⟨rfl, makes_primvarValue prim descriptor.name isGiven⟩ <|
      .cons ⟨rfl, steady.makes_constantOf _ _⟩ <| .cons ⟨rfl, steady.makes_constantOf _ _⟩ .nil

theorem Done.onward {store twinStore later twinLater : Store} (done : twins.Done store twinStore)
    (onward : twins.prim.Onward twins.around twins.start store later)
    (twinOnward : twins.twin.Onward twins.around twins.twinStart twinStore twinLater) :
    twins.Done later twinLater :=
  ⟨onward.kept, twinOnward.kept,
    onward.unbracketed.trans (done.unbracketed.trans twinOnward.unbracketed.symm)⟩

theorem Minted.onward {store twinStore later twinLater : Store}
    (minted : twins.Minted [] store twinStore)
    (onward : twins.prim.Onward twins.around twins.start store later)
    (twinOnward : twins.twin.Onward twins.around twins.twinStart twinStore twinLater) :
    twins.Minted [] later twinLater :=
  ⟨minted.toDone.onward onward twinOnward, fun since => onward.unsampled (minted.unsampled since),
    fun since => twinOnward.unsampled (minted.twinUnsampled since), nofun, nofun⟩

theorem finds_primvars :
    twins.Finds (twins.Minted []) twins.prim.primvars twins.twin.primvars := by
  intro store twinStore minted
  rcases minted.kept.describedPrimvars with ⟨content, onward⟩
  rcases minted.twinKept.describedPrimvars with ⟨twinContent, twinOnward⟩
  have same : ∀ described twinDescribed : Numbered (List PrimvarDescriptor),
      described.content = twinDescribed.content →
      twins.From (twins.Minted []) (twins.prim.primvarsContainer described).toSource
        (twins.twin.primvarsContainer twinDescribed).toSource := by
    rintro ⟨number, descriptors⟩ ⟨twinNumber, _⟩ rfl
    refine (steady_minted []).from_container ((steady_minted []).yields_pure _) fun name => ?_
    dsimp only [ServedPrim.primvarsContainer]
    split
    · exact finds_primvar _ _ []
    · exact (steady_minted []).finds_none
  exact same _ _ (content.trans twinContent.symm) _ _ (minted.onward onward twinOnward)

theorem finds_computedPrimvars :
    twins.Finds twins.Done twins.prim.computedPrimvars twins.twin.computedPrimvars := by
  intro store twinStore done
  rcases done.kept.describedComputedPrimvars with ⟨content, onward⟩
  rcases done.twinKept.describedComputedPrimvars with ⟨twinContent, twinOnward⟩
  have same : ∀ described twinDescribed : Numbered (List ComputedPrimvarDescriptor),
      described.content = twinDescribed.content →
      twins.From twins.Done (computedPrimvarsContainer described).toSource
        (computedPrimvarsContainer twinDescribed).toSource := by
    rintro ⟨number, descriptors⟩ ⟨twinNumber, _⟩ rfl
    refine steady_done.from_container (steady_done.yields_pure _) fun name => ?_
    dsimp only [computedPrimvarsContainer]
    split
    · exact steady_done.finds_found <| steady_done.makes_present <|
        .cons ⟨rfl, steady_done.makes_constantOf _ _⟩ <|
        .cons ⟨rfl, steady_done.makes_constantOf _ _⟩ <|
        .cons ⟨rfl, steady_done.makes_constantOf _ _⟩ <|
        .cons ⟨rfl, steady_done.makes_constantOf _ _⟩ <|
        .cons ⟨rfl, steady_done.makes_constantOf _ _⟩ .nil
    · exact steady_done.finds_none
  exact same _ _ (content.trans twinContent.symm) _ _ (done.onward onward twinOnward)

structure Rooted (twins : Twins) (number twinNumber : Nat) (store twinStore : Store) : Prop
    extends twins.Done store twinStore where
  root : (store.prims twins.prim.number).instancerTopology.content = some number
  twinRoot : (twinStore.prims twins.twin.number).instancerTopology.content = some twinNumber

theorem steady_rooted (number twinNumber : Nat) :
    twins.Steady (twins.Rooted number twinNumber) where
  done rooted := rooted.toDone
  newNumber rooted := ⟨steady_done.newNumber rooted.toDone, rooted.root, rooted.twinRoot⟩
  asked unremembered rooted :=
    ⟨steady_done.asked unremembered rooted.toDone, rooted.root, rooted.twinRoot⟩

theorem yields_prototypes (number twinNumber : Nat) :
    twins.Yields (twins.Rooted number twinNumber) (twins.prim.prototypesOnce number)
      (twins.twin.prototypesOnce twinNumber) := by
  intro store twinStore rooted
  rcases rooted.kept.prototypesOnce rooted.root with ⟨prototypes, onward⟩
  rcases rooted.twinKept.prototypesOnce rooted.twinRoot with ⟨twinPrototypes, twinOnward⟩
  exact ⟨prototypes.trans twinPrototypes.symm, rooted.toDone.onward onward twinOnward⟩

theorem from_topology (number twinNumber : Nat) :
    twins.From (twins.Rooted number twinNumber) (twins.prim.instancerTopology number).toSource
      (twins.twin.instancerTopology twinNumber).toSource := by
  have steady : twins.Steady (twins.Rooted number twinNumber) := steady_rooted _ _
  refine steady.from_container (steady.yields_pure _) fun name => ?_
  dsimp only [ServedPrim.instancerTopology]
  split
  · exact (yields_prototypes number twinNumber).finds fun prototypes =>
      steady_done.finds_found (steady_done.makes_constantOf _ _)
  split
  · refine (yields_prototypes number twinNumber).finds fun prototypes => ?_
    -- by now prototypes are remembered; the elements only ask
    refine steady_done.from_vector (steady_done.yields_pure _) fun position => ?_
    intro store twinStore done
    cases listed : prototypes[position]? with
    | none =>
        dsimp only
        exact same_none done
    | some prototype =>
        dsimp only
        exact steady_done.finds_found
          (steady_done.makes_lazyOf (steady_done.yields (steady_done.plain (.ask rfl)))) _ _ done
  split
  · exact steady.finds_found (steady.makes_constantOf _ _)
  · exact steady.finds_none

theorem finds_topology :
    twins.Finds twins.Done twins.prim.topologyOfInstancer twins.twin.topologyOfInstancer := by
  intro store twinStore done
  rcases done.kept.topologyNumber with ⟨root, onward⟩
  rcases done.twinKept.topologyNumber with ⟨twinRoot, twinOnward⟩
  exact from_topology _ _ _ _ ⟨done.onward onward twinOnward, root, twinRoot⟩

/-! ### Topology -/

theorem yields_meshTopology (isMesh : twins.prim.type = "mesh") :
    twins.Yields twins.Done twins.prim.meshTopology twins.twin.meshTopology := by
  intro store twinStore done
  rcases done.kept.meshTopology isMesh with ⟨topology, onward⟩
  rcases done.twinKept.meshTopology isMesh with ⟨twinTopology, twinOnward⟩
  exact ⟨topology.trans twinTopology.symm, done.onward onward twinOnward⟩

theorem yields_curvesTopology (isCurves : twins.prim.type = "basisCurves") :
    twins.Yields twins.Done twins.prim.curvesTopology twins.twin.curvesTopology := by
  intro store twinStore done
  rcases done.kept.curvesTopology isCurves with ⟨topology, onward⟩
  rcases done.twinKept.curvesTopology isCurves with ⟨twinTopology, twinOnward⟩
  exact ⟨topology.trans twinTopology.symm, done.onward onward twinOnward⟩

theorem finds_mesh (isMesh : twins.prim.type = "mesh") :
    twins.Finds twins.Done twins.prim.meshContainer.found twins.twin.meshContainer.found := by
  have field : ∀ (type : ValueType) (field : MeshTopology → type.Content),
      twins.Finds twins.Done (twins.prim.meshField type field).found
        (twins.twin.meshField type field).found := fun type field =>
    steady_done.finds_found (steady_done.makes_lazyOf ((yields_meshTopology isMesh).map field))
  have faces : twins.Finds twins.Done twins.prim.meshFaces.found twins.twin.meshFaces.found := by
    refine steady_done.finds_passing fun name => ?_
    split
    · exact field _ _
    split
    · exact field _ _
    split
    · exact field _ _
    split
    · exact field _ _
    · exact steady_done.finds_none
  refine steady_done.finds_passing fun name => ?_
  split
  · exact faces
  split
  · exact field _ _
  split
  · refine steady_done.finds_asking (.ask rfl) fun tags => ?_
    refine steady_done.finds_found (steady_done.makes_present_self ?_)
    simp only [List.forall_mem_cons, List.not_mem_nil, false_imp_iff, implies_true, and_true]
    exact ⟨steady_done.makes_constantOf _ _, steady_done.makes_constantOf _ _,
      steady_done.makes_constantOf _ _, steady_done.makes_constantOf _ _,
      steady_done.makes_constantOf _ _, steady_done.makes_constantOf _ _,
      steady_done.makes_constantOf _ _, steady_done.makes_constantOf _ _⟩
  split
  · exact steady_done.finds_asking (.ask rfl) fun isDoubleSided =>
      steady_done.finds_found (steady_done.makes_constantOf _ _)
  · exact steady_done.finds_none

theorem finds_curves (isCurves : twins.prim.type = "basisCurves") :
    twins.Finds twins.Done twins.prim.curvesContainer.found twins.twin.curvesContainer.found := by
  have field : ∀ (type : ValueType) (field : CurvesTopology → type.Content),
      twins.Finds twins.Done (twins.prim.curvesField type field).found
        (twins.twin.curvesField type field).found := fun type field =>
    steady_done.finds_found (steady_done.makes_lazyOf ((yields_curvesTopology isCurves).map field))
  have shape : twins.Finds twins.Done twins.prim.curvesShape.found
      twins.twin.curvesShape.found := by
    refine steady_done.finds_passing fun name => ?_
    split
    · exact field _ _
    split
    · exact field _ _
    split
    · exact field _ _
    split
    · exact field _ _
    split
    · exact field _ _
    · exact steady_done.finds_none
  refine steady_done.finds_passing fun name => ?_
  split
  · exact shape
  · exact steady_done.finds_none

/-! ## All members -/

theorem finds_member (name : Token) :
    twins.Finds (twins.Minted []) (twins.prim.member name) (twins.twin.member name) := by
  have steady : twins.Steady (twins.Minted []) := steady_minted []
  have done : ∀ store twinStore, twins.Minted [] store twinStore → twins.Done store twinStore :=
    fun _ _ => steady.done
  refine .ite (fun _ => finds_primvars) fun _ => ?_
  refine .ite (fun _ => Lockstep.of_start finds_computedPrimvars done) fun _ => ?_
  refine .ite (fun _ => .ite (fun isMesh => Lockstep.of_start (finds_mesh isMesh) done)
    fun _ => steady.finds_none) fun _ => ?_
  refine .ite (fun _ => .ite (fun isCurves => Lockstep.of_start (finds_curves isCurves) done)
    fun _ => steady.finds_none) fun _ => ?_
  refine .ite (fun _ => finds_xform _ _) fun _ => ?_
  refine .ite (fun _ => steady.finds_asking (.ask rfl) fun _ => steady.finds_found <|
    steady.makes_present <| .cons ⟨rfl, steady.makes_constantOf _ _⟩ .nil) fun _ => ?_
  refine .ite (fun _ => steady.finds_asking (.ask rfl) fun _ => steady.finds_found <|
    steady.makes_present <| .cons ⟨rfl, steady.makes_constantOf _ _⟩ .nil) fun _ => ?_
  refine .ite (fun _ => steady.finds_extent _) fun _ => ?_
  refine .ite (fun _ => steady.finds_categories _) fun _ => ?_
  refine .ite (fun _ => steady.finds_instancedBy _) fun _ => ?_
  refine .ite (fun _ => steady.finds_coordSysBinding _) fun _ => ?_
  refine .ite (fun _ => steady.finds_boundMaterial _) fun _ => ?_
  refine .ite (fun _ => steady.finds_material _) fun _ => ?_
  refine .ite (fun _ => steady.finds_display _) fun _ => ?_
  refine .ite (fun _ => steady.finds_light _) fun _ => ?_
  refine .ite (fun _ => steady.finds_collections _) fun _ => ?_
  refine .ite (fun _ => steady.finds_camera _) fun _ => ?_
  refine .ite (fun _ => steady.finds_renderBuffer _) fun _ => ?_
  refine .ite (fun _ => steady.finds_renderSettings _) fun _ => ?_
  refine .ite (fun _ => steady.finds_renderResource _) fun _ => ?_
  refine .ite (fun _ => Lockstep.of_start finds_topology done) fun _ => ?_
  refine .ite (fun _ => finds_instanceCategories _ _) fun _ => ?_
  refine .ite (fun _ => steady.finds_volumeField _) fun _ => ?_
  refine .ite (fun _ => steady.finds_volumeFieldBinding _) fun _ => ?_
  refine .ite (fun _ => finds_computation _ _) fun _ => ?_
  refine .ite (fun _ => steady.finds_drawTarget _) fun _ => ?_
  refine .ite (fun _ => steady.finds_found (steady.makes_constant _)) fun _ => ?_
  exact steady.finds_none

theorem from_data :
    twins.From (twins.Minted []) twins.prim.data.toSource twins.twin.data.toSource := by
  have steady : twins.Steady (twins.Minted []) := steady_minted []
  refine steady.from_container ?_ finds_member
  exact steady.yields (steady.plain (.map _ (Steady.isPlain_isLight twins.prim)))

end Twins

end LayeredScene
