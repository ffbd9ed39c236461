import LayeredScene.Delegate.Primvars
import LayeredScene.Proofs.Source.Blueprints
import LayeredScene.Proofs.Source.Overlay

/-! # Primvars by name

A delegate describes primvars interpolation by interpolation, and can describe one name several
times. The containers that are made of its descriptions have each name once, where it came first,
and show of it what was said last.
-/

namespace LayeredScene

/-! ## Placing by name -/

section Placing

variable {α : Type} {nameOf : α → Token} {placed : List (Token × α)} {entries : List α}

theorem names_putByName (name : Token) (entry : α) (placed : List (Token × α)) :
    (putByName name entry placed).map (·.1) =
      if (placed.map (·.1)).contains name then placed.map (·.1)
      else placed.map (·.1) ++ [name] := by
  induction placed with
  | nil => rfl
  | cons first rest induction =>
      rw [putByName, List.map_cons, List.contains_cons]
      by_cases isFirst : first.1 = name
      · simp [isFirst]
      · rw [if_neg isFirst, List.map_cons, induction, beq_eq_false_iff_ne.mpr (Ne.symm isFirst),
          Bool.false_or]
        split <;> rfl

theorem names_foldl_putByName (entries : List α) (placed : List (Token × α)) :
    (entries.foldl (fun placed entry => putByName (nameOf entry) entry placed) placed).map (·.1) =
      Container.uniteNames (placed.map (·.1)) (entries.map nameOf) := by
  induction entries generalizing placed with
  | nil => rfl
  | cons entry entries induction =>
      rw [List.foldl_cons, induction, names_putByName, List.map_cons,
        Container.unites_uniteNames.cons]

theorem names_putAllByName (nameOf : α → Token) (entries : List α) :
    (putAllByName nameOf entries).map (·.1) = (entries.map nameOf).eraseDups := by
  rw [putAllByName, names_foldl_putByName]
  exact Container.unites_uniteNames.eq_eraseDups _

theorem entryNamed?_putByName (name : Token) (entry : α) (placed : List (Token × α))
    (asked : Token) :
    entryNamed? (putByName name entry placed) asked =
      if name = asked then some entry else entryNamed? placed asked := by
  induction placed with
  | nil => by_cases same : name = asked <;> simp [putByName, entryNamed?, same]
  | cons first rest induction =>
      rw [putByName]
      simp only [entryNamed?, List.find?_cons] at induction ⊢
      by_cases isFirst : first.1 = name
      · by_cases same : name = asked <;> simp [isFirst, same]
      · by_cases isAsked : first.1 = asked
        · have different : name ≠ asked := fun same => isFirst (isAsked.trans same.symm)
          simp [isAsked, different, Ne.symm different]
        · simpa [isFirst, isAsked] using induction

theorem entryNamed?_foldl_of_others {asked : Token}
    (others : ∀ entry ∈ entries, nameOf entry ≠ asked) :
    entryNamed? (entries.foldl (fun placed entry => putByName (nameOf entry) entry placed) placed)
      asked = entryNamed? placed asked := by
  induction entries generalizing placed with
  | nil => rfl
  | cons entry entries induction =>
      have parts := List.forall_mem_cons.mp others
      rw [List.foldl_cons, induction parts.2, entryNamed?_putByName, if_neg parts.1]

theorem entryNamed?_putAllByName {before after : List α} {entry : α}
    (last : ∀ later ∈ after, nameOf later ≠ nameOf entry) :
    entryNamed? (putAllByName nameOf (before ++ entry :: after)) (nameOf entry) = some entry := by
  rw [putAllByName, List.foldl_append, List.foldl_cons, entryNamed?_foldl_of_others last,
    entryNamed?_putByName, if_pos rfl]

example : (putAllByName Prod.fst [("color", 1), ("normals", 2), ("color", 3)]).map (·.2) =
    [("color", 3), ("normals", 2)] := by decide +kernel

def AreNamed (nameOf : α → Token) (placed : List (Token × α)) : Prop :=
  ∀ entry ∈ placed, nameOf entry.2 = entry.1

theorem AreNamed.putByName (named : AreNamed nameOf placed) (entry : α) :
    AreNamed nameOf (putByName (nameOf entry) entry placed) := by
  induction placed with
  | nil => exact List.forall_mem_singleton.mpr rfl
  | cons first rest induction =>
      have parts := List.forall_mem_cons.mp named
      rw [LayeredScene.putByName]
      split
      · rename_i isFirst
        exact List.forall_mem_cons.mpr ⟨isFirst.symm, parts.2⟩
      · exact List.forall_mem_cons.mpr ⟨parts.1, induction parts.2⟩

theorem areNamed_putAllByName (nameOf : α → Token) (entries : List α) :
    AreNamed nameOf (putAllByName nameOf entries) := by
  have kept : ∀ placed, AreNamed nameOf placed → AreNamed nameOf
      (entries.foldl (fun placed entry => putByName (nameOf entry) entry placed) placed) := by
    induction entries with
    | nil => exact fun _ named => named
    | cons entry entries induction => exact fun _ named => induction _ (named.putByName entry)
  exact kept [] fun _ member => absurd member List.not_mem_nil

theorem AreNamed.map_nameOf (named : AreNamed nameOf placed) :
    (placed.map (·.2)).map nameOf = placed.map (·.1) := by
  rw [List.map_map]
  exact List.map_congr_left named

theorem AreNamed.find?_eq (named : AreNamed nameOf placed) (name : Token) :
    (placed.map (·.2)).find? (nameOf · = name) = entryNamed? placed name := by
  induction placed with
  | nil => rfl
  | cons first rest induction =>
      have parts := List.forall_mem_cons.mp named
      have others := induction parts.2
      simp only [List.map_cons, entryNamed?, List.find?_cons, parts.1] at others ⊢
      cases decide (first.1 = name) with
      | true => rfl
      | false => exact others

end Placing

/-! ## Containers by name -/

/-- A container has one member for each name under which something was reported, in the order in
which the names were reported first. A member shows what was reported last under its name. -/
structure Container.ShowsLast {α : Type} (container : Container) (nameOf : α → Token)
    (reported : List α) (shows : α → Source → Prop) : Prop where
  names : ∃ names, container.names = pure names ∧ names.Nodup ∧
    names = (reported.map nameOf).eraseDups
  last : ∀ before entry after, reported = before ++ entry :: after →
    (∀ later ∈ after, nameOf later ≠ nameOf entry) → ∀ around store, ∃ source later,
      container.get (nameOf entry) around store = (some source, later) ∧ shows entry source
  unreported : ∀ name, name ∉ reported.map nameOf → container.get name = pure none

section Containers

variable {α : Type} {nameOf : α → Token} {reported : List α} {shows : α → Source → Prop}

theorem Container.showsLast_of_placed {container : Container} {described : List α}
    (make : α → Reads (Option Source))
    (placed : described = (putAllByName nameOf reported).map (·.2))
    (names : container.names = pure (described.map nameOf))
    (get : ∀ name, container.get name =
      ((described.find? (nameOf · = name)).map make).getD (pure none))
    (made : ∀ entry around store, ∃ source later,
      make entry around store = (some source, later) ∧ shows entry source) :
    container.ShowsLast nameOf reported shows where
  names := by
    refine ⟨(reported.map nameOf).eraseDups, ?_, nodup_eraseDups _, rfl⟩
    rw [names, placed, (areNamed_putAllByName nameOf reported).map_nameOf, names_putAllByName]
  last before entry after isReported isLast around store := by
    have found : described.find? (nameOf · = nameOf entry) = some entry := by
      rw [placed, (areNamed_putAllByName nameOf reported).find?_eq, isReported,
        entryNamed?_putAllByName isLast]
    rw [get, found]
    exact made entry around store
  unreported name notReported := by
    have others : ∀ entry ∈ reported, nameOf entry ≠ name := fun entry member same =>
      notReported (List.mem_map.mpr ⟨entry, member, same⟩)
    have notFound : described.find? (nameOf · = name) = none := by
      rw [placed, (areNamed_putAllByName nameOf reported).find?_eq, putAllByName,
        entryNamed?_foldl_of_others others]
      rfl
    rw [get, notFound]
    rfl

end Containers

/-! ## Members of primvars -/

def Source.HasPart (source : Source) (name : Token) (blueprint : Blueprint) : Prop :=
  ∃ inner : Identity, follow (some source) [.member name] = pure (some (blueprint inner))

/-- A source shows a primvar as it was described: its value is not indexed and stands alone, or is
indexed and stands beside the indices. -/
structure ServedPrim.ShowsPrimvar (prim : ServedPrim) (descriptor : PrimvarDescriptor)
    (source : Source) : Prop where
  names : source.answer .names = pure (.names
    ((if descriptor.indexed then ["indexedPrimvarValue", "indices"] else ["primvarValue"]) ++
      ["interpolation", "role"]))
  interpolation : source.HasValue [.member "interpolation"]
    (.single .token descriptor.interpolation.name)
  role : source.HasValue [.member "role"] (.single .token descriptor.role)
  plain : descriptor.indexed = false → ∃ number,
    source.HasPart "primvarValue" (prim.primvarValue descriptor.name number)
  indexed : descriptor.indexed = true → ∃ number,
    source.HasPart "indexedPrimvarValue" (prim.indexedPrimvarValue descriptor.name number) ∧
      source.HasPart "indices" (prim.primvarIndices descriptor.name number)

structure ComputedPrimvarDescriptor.ShownBy (descriptor : ComputedPrimvarDescriptor)
    (source : Source) : Prop where
  names : source.answer .names = pure (.names ["interpolation", "role", "sourceComputation",
    "sourceComputationOutputName", "valueType"])
  interpolation : source.HasValue [.member "interpolation"]
    (.single .token descriptor.interpolation.name)
  role : source.HasValue [.member "role"] (.single .token descriptor.role)
  computation : source.HasValue [.member "sourceComputation"]
    (.single .path descriptor.computation)
  output : source.HasValue [.member "sourceComputationOutputName"]
    (.single .token descriptor.output)
  valueType : source.HasValue [.member "valueType"] (.single .token descriptor.valueType)

theorem Blueprint.hasValue_present {entries : List (Token × Blueprint)} {name : Token}
    {kind : Kind} {content : kind.Content}
    (found : (entries.find? (·.1 = name)).map (·.2) = some (constantOf (.single kind) content))
    (identity : Identity) :
    (present entries identity).HasValue [.member name] (.single kind content) := by
  have leads : (present entries).LeadsTo [.member name]
      ((some content).map (constantOf (.single kind))) := by
    rw [Option.map_some, ← found]
    exact leadsTo_present entries name
  exact (leads.hasValue_iff identity).mpr rfl

theorem Blueprint.hasPart_present {entries : List (Token × Blueprint)} {name : Token}
    {blueprint : Blueprint}
    (found : (entries.find? (·.1 = name)).map (·.2) = some blueprint)
    (identity : Identity) : (present entries identity).HasPart name blueprint := by
  rcases leadsTo_present entries name identity with ⟨inner, follows⟩
  rw [found] at follows
  exact ⟨inner, follows⟩

theorem ComputedPrimvarDescriptor.shownBy_blueprint (descriptor : ComputedPrimvarDescriptor)
    (identity : Identity) : descriptor.ShownBy (descriptor.blueprint identity) where
  names := Blueprint.answer_present_names _ identity
  interpolation := Blueprint.hasValue_present rfl identity
  role := Blueprint.hasValue_present rfl identity
  computation := Blueprint.hasValue_present rfl identity
  output := Blueprint.hasValue_present rfl identity
  valueType := Blueprint.hasValue_present rfl identity

theorem ServedPrim.showsPrimvar_of_plain (prim : ServedPrim) {descriptor : PrimvarDescriptor}
    (layout : descriptor.indexed = false) (number : Nat) (identity : Identity) :
    prim.ShowsPrimvar descriptor (Blueprint.present
      [("primvarValue", prim.primvarValue descriptor.name number),
        ("interpolation", .token descriptor.interpolation.name),
        ("role", .token descriptor.role)] identity) where
  names := by
    rw [layout]
    exact Blueprint.answer_present_names _ identity
  interpolation := Blueprint.hasValue_present rfl identity
  role := Blueprint.hasValue_present rfl identity
  plain _ := ⟨number, Blueprint.hasPart_present rfl identity⟩
  indexed isIndexed := absurd isIndexed (Bool.eq_false_iff.mp layout)

theorem ServedPrim.showsPrimvar_of_indexed (prim : ServedPrim) {descriptor : PrimvarDescriptor}
    (layout : descriptor.indexed = true) (number : Nat) (identity : Identity) :
    prim.ShowsPrimvar descriptor (Blueprint.present
      [("indexedPrimvarValue", prim.indexedPrimvarValue descriptor.name number),
        ("indices", prim.primvarIndices descriptor.name number),
        ("interpolation", .token descriptor.interpolation.name),
        ("role", .token descriptor.role)] identity) where
  names := by
    rw [layout]
    exact Blueprint.answer_present_names _ identity
  interpolation := Blueprint.hasValue_present rfl identity
  role := Blueprint.hasValue_present rfl identity
  plain isPlain := absurd layout (Bool.eq_false_iff.mp isPlain)
  indexed _ := ⟨number, Blueprint.hasPart_present rfl identity,
    Blueprint.hasPart_present rfl identity⟩

theorem ServedPrim.shows_primvar (prim : ServedPrim) (descriptor : PrimvarDescriptor)
    (around : Surroundings) (store : Store) : ∃ source later,
      prim.primvar descriptor around store = (some source, later) ∧
        prim.ShowsPrimvar descriptor source := by
  refine ⟨_, _, rfl, ?_⟩
  cases layout : descriptor.indexed with
  | false => exact prim.showsPrimvar_of_plain layout store.next _
  | true => exact prim.showsPrimvar_of_indexed layout store.next _

/-! ## The containers of a prim -/

theorem ServedPrim.get_primvarsContainer (prim : ServedPrim)
    (described : Numbered (List PrimvarDescriptor)) (name : Token) :
    (prim.primvarsContainer described).get name =
      ((described.content.find? (·.name = name)).map prim.primvar).getD (pure none) := by
  simp only [primvarsContainer]
  cases described.content.find? (·.name = name) <;> rfl

theorem get_computedPrimvarsContainer (described : Numbered (List ComputedPrimvarDescriptor))
    (name : Token) : (computedPrimvarsContainer described).get name =
      ((described.content.find? (·.name = name)).map (·.blueprint.found)).getD (pure none) := by
  simp only [computedPrimvarsContainer]
  cases described.content.find? (·.name = name) <;> rfl

/-- The primvars of a prim, and its computed primvars, are merged by name, from what its delegate
says of each of the six interpolations one after the other. -/
theorem ServedPrim.primvars_merged_by_name (prim : ServedPrim) (around : Surroundings)
    (store : Store) (number : Nat) :
    ∃ asked : List Interpolation,
      asked = [.constant, .uniform, .varying, .vertex, .faceVarying, .perInstance] ∧
      (∀ interpolation, asked.count interpolation = 1) ∧
      asked.map Interpolation.name =
        ["constant", "uniform", "varying", "vertex", "faceVarying", "instance"] ∧
      (prim.primvarsContainer ⟨number, (prim.describePrimvars around store).1⟩).ShowsLast
        PrimvarDescriptor.name
        (asked.flatMap (around.delegates prim.delegate prim.path).primvars) prim.ShowsPrimvar ∧
      (computedPrimvarsContainer
          ⟨number, (prim.describeComputedPrimvars around store).1⟩).ShowsLast
        ComputedPrimvarDescriptor.name
        (asked.flatMap (around.delegates prim.delegate prim.path).computedPrimvars)
        ComputedPrimvarDescriptor.ShownBy := by
  refine ⟨Interpolation.all, rfl, ?_, rfl, ?_, ?_⟩
  · intro interpolation
    cases interpolation <;> rfl
  · exact Container.showsLast_of_placed prim.primvar rfl rfl (prim.get_primvarsContainer _)
      prim.shows_primvar
  · exact Container.showsLast_of_placed (·.blueprint.found) rfl rfl
      (get_computedPrimvarsContainer _)
      fun descriptor _ _ => ⟨_, _, rfl, descriptor.shownBy_blueprint _⟩

end LayeredScene
