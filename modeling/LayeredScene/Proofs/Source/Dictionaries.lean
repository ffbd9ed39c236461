import LayeredScene.Proofs.Source.Blueprints
import LayeredScene.Source.Dictionary
import LayeredScene.Source.Survey
import LayeredScene.Source.Walk

/-! # What dictionaries become as data

The container made of a dictionary shows as the dictionary does, and keys lead in the one to what
they lead to in the other. Dictionaries list each key once; if one listed a key twice, its document
would show the last value of the key and the container the first.
-/

namespace LayeredScene

namespace Value

def IsLeaf (value : Value) : Prop := ∀ entries, value ≠ .dictionary entries

/-- Values in which no dictionary, at whatever depth, lists a key twice. -/
inductive KeysDistinct : Value → Prop
  | dictionary {entries : List (String × Value)} (distinct : (entries.map (·.1)).Nodup)
      (inside : ∀ entry ∈ entries, KeysDistinct entry.2) : KeysDistinct (.dictionary entries)
  | leaf {value : Value} (isLeaf : value.IsLeaf) : KeysDistinct value

/-- Where keys lead through dictionaries. No keys lead to the value itself. -/
def at? (value : Value) : List String → Option Value
  | [] => some value
  | key :: keys =>
      match value with
      | .dictionary entries => do at? (← entries.find? (·.1 = key)).2 keys
      | _ => none

end Value

/-! ## What data shows as -/

def Container.look (container : Container) (name : Token) (around : Surroundings) (store : Store) :
    Option (Outline Value) × Store :=
  Source.surveyFound (fun content => content.value 0) (container.get name around store) around

namespace Source

def ShowsAs (source : Source) (document : JsonDocument) : Prop :=
  ∀ around store, ∃ outline, survey (fun content => content.value 0) source around store =
    (outline, store) ∧ outline.toJson = document

variable {container : Container} {around : Surroundings} {store : Store} {document : JsonDocument}
  {entries : List (String × Value)}

theorem survey_of_names {names : List Token} (lists : container.names = pure names)
    {members : List (Token × Option (Outline Value))} {after : Store}
    (found : surveyNames container.look around names store = (members, after)) :
    survey (fun content => content.value 0) container.toSource around store =
      (.container members, after) := by
  have reads : container.names around store = (names, store) := by
    rw [lists]
    rfl
  have unfolded : survey (fun content => content.value 0) container.toSource around store =
      let listed := container.names around store
      let members := surveyNames container.look around listed.1 listed.2
      (.container members.1, members.2) := rfl
  rw [unfolded, reads]
  simp only [found]

theorem exists_surveyNames
    (shows : ∀ entry ∈ entries, ∃ outline, container.look entry.1 around store =
      (some outline, store) ∧ outline.toJson = entry.2.toJson) :
    ∃ members, surveyNames container.look around (entries.map (·.1)) store = (members, store) ∧
      Outline.membersToJson members = Value.entriesToJson entries := by
  induction entries with
  | nil => exact ⟨[], rfl, rfl⟩
  | cons entry rest induction =>
      rcases shows entry List.mem_cons_self with ⟨outline, found, document⟩
      have later := fun entry isLater => shows entry (List.mem_cons_of_mem _ isLater)
      rcases induction later with ⟨members, listed, documents⟩
      refine ⟨(entry.1, some outline) :: members, ?_, ?_⟩
      · rw [List.map_cons, surveyNames, found, listed]
      · rw [Outline.membersToJson, document, documents, Value.entriesToJson]

theorem showsAs_container (lists : container.names = pure (entries.map (·.1)))
    (shows : ∀ entry ∈ entries, ∃ source : Source,
      container.get entry.1 = pure (some source) ∧ source.ShowsAs entry.2.toJson) :
    container.toSource.ShowsAs (Value.dictionary entries).toJson := by
  intro around store
  have looks : ∀ entry ∈ entries, ∃ outline, container.look entry.1 around store =
      (some outline, store) ∧ outline.toJson = entry.2.toJson := by
    intro entry member
    rcases shows entry member with ⟨source, got, showsAs⟩
    rcases showsAs around store with ⟨outline, surveyed, document⟩
    refine ⟨outline, ?_, document⟩
    simp only [Container.look, got, pure, surveyFound, surveyPresent, surveyed]
  rcases exists_surveyNames looks with ⟨members, found, documents⟩
  refine ⟨.container members, survey_of_names lists found, ?_⟩
  rw [Outline.toJson, documents, Value.toJson]

theorem ShowsAs.outline {source : Source} (shows : source.ShowsAs document) :
    Outline.toJsonPresent <$> outline (·.value 0) (some source) = pure document := by
  funext around store
  rcases shows around store with ⟨shown, surveyed, rfl⟩
  have reads : Source.outline (·.value 0) (some source) around store = (some shown, store) := by
    simp only [Source.outline, surveyPresent, surveyed]
  rw [map_eq_pure_bind, Reads.bind_of_reads reads]
  rfl

end Source

namespace Blueprint

variable {value : Value} {keys : List String}

theorem ofEntries_eq_map (entries : List (String × Value)) :
    ofEntries entries = entries.map fun entry => (entry.1, ofEntry entry.2) := by
  induction entries with
  | nil => rfl
  | cons entry rest induction => rw [ofEntries, induction, List.map_cons]

theorem names_ofEntries (entries : List (String × Value)) :
    (ofEntries entries).map (·.1) = entries.map (·.1) := by
  rw [ofEntries_eq_map, List.map_map]
  rfl

theorem ofEntry_of_isLeaf (isLeaf : value.IsLeaf) : ofEntry value = ofValue value := by
  cases value with
  | dictionary entries => exact absurd rfl (isLeaf entries)
  | _ => rfl

theorem showsAs_ofValue (value : Value) (identity : Identity) :
    (ofValue value identity).ShowsAs value.toJson := by
  intro around store
  have read := congrFun (congrFun (Sampled.value_ofValue identity value 0) around) store
  exact ⟨.leaf value, congrArg (fun result => (Outline.leaf result.1, result.2)) read, rfl⟩

theorem showsAs_ofEntry (distinct : value.KeysDistinct) (identity : Identity) :
    (ofEntry value identity).ShowsAs value.toJson := by
  induction distinct generalizing identity with
  | leaf isLeaf =>
      rw [ofEntry_of_isLeaf isLeaf]
      exact showsAs_ofValue _ identity
  | dictionary distinct inside induction =>
      rename_i entries
      rw [← names_ofEntries] at distinct
      rw [ofEntry, present_eq]
      apply Source.showsAs_container
      · rw [names_retained, names_ofEntries]
      · intro entry member
        have isEntry : (entry.1, ofEntry entry.2) ∈ ofEntries entries := by
          rw [ofEntries_eq_map]
          exact List.mem_map_of_mem member
        rcases leadsTo_entry distinct isEntry identity with ⟨inner, follows⟩
        rw [Source.follow_single, present_eq] at follows
        exact ⟨ofEntry entry.2 inner, follows, induction entry member inner⟩

/-! ## Where keys lead -/

theorem find?_ofEntries (entries : List (String × Value)) (key : String) :
    (ofEntries entries).find? (·.1 = key) =
      (entries.find? (·.1 = key)).map fun entry => (entry.1, ofEntry entry.2) := by
  rw [ofEntries_eq_map]
  exact List.find?_map

theorem leadsTo_ofEntry (value : Value) (keys : List String) :
    (ofEntry value).LeadsTo (keys.map .member) ((value.at? keys).map ofEntry) := by
  induction keys generalizing value with
  | nil => exact fun identity => ⟨identity, rfl⟩
  | cons key keys induction =>
      cases value with
      | dictionary entries =>
          have first := leadsTo_present (ofEntries entries) key
          rw [find?_ofEntries, Option.map_map] at first
          rw [Value.at?]
          cases found : entries.find? (·.1 = key) with
          | none =>
              rw [found] at first
              exact first.nowhere (keys.map .member)
          | some entry =>
              rw [found] at first
              exact first.append (induction entry.2)
      | _ =>
          intro identity
          refine ⟨identity, ?_⟩
          cases keys <;> rfl

end Blueprint

/-- A container in which locators lead as keys do in a value: to constants of the values that are
no dictionaries, and to containers of those that are. -/
structure Container.Mirrors (container : Container) (value : Value) : Prop where
  constant : ∀ keys leaf, value.at? keys = some leaf → leaf.IsLeaf → ∃ sampled : Sampled,
    container.find ⟨keys⟩ = pure (some (.sampled sampled)) ∧ ∀ time, sampled.value time = pure leaf
  inner : ∀ keys entries, value.at? keys = some (.dictionary entries) → ∃ identity,
    container.find ⟨keys⟩ = pure (some (Blueprint.ofDictionary entries identity))
  nowhere : ∀ keys, value.at? keys = none → container.find ⟨keys⟩ = pure none

namespace Blueprint

variable {identity : Identity} {container : Container} {entries : Dictionary}

theorem exists_find (made : ofDictionary entries identity = container.toSource)
    (keys : List String) : ∃ inner : Identity, container.find ⟨keys⟩ =
      pure (((Value.dictionary entries).at? keys).map (ofEntry · inner)) := by
  rcases leadsTo_ofEntry (.dictionary entries) keys identity with ⟨inner, follows⟩
  refine ⟨inner, ?_⟩
  rw [Container.find, ← made, Source.walk_eq_follow]
  rw [Option.map_map] at follows
  exact follows

theorem mirrors_ofDictionary (made : ofDictionary entries identity = container.toSource) :
    container.Mirrors (.dictionary entries) where
  constant keys leaf leads isLeaf := by
    rcases exists_find made keys with ⟨inner, found⟩
    rw [leads, Option.map_some, ofEntry_of_isLeaf isLeaf] at found
    exact ⟨.ofValue inner leaf, found, Sampled.value_ofValue inner leaf⟩
  inner keys nested leads := by
    rcases exists_find made keys with ⟨inner, found⟩
    rw [leads, Option.map_some] at found
    exact ⟨inner, found⟩
  nowhere keys leads := by
    rcases exists_find made keys with ⟨inner, found⟩
    rw [leads] at found
    exact found

/-- A dictionary as data is faithful: it shows as the dictionary does, and locators lead in it where
keys lead in the dictionary. -/
theorem ofDictionary_faithful (entries : Dictionary)
    (distinct : (Value.dictionary entries).KeysDistinct) (identity : Identity) :
    Outline.toJsonPresent <$>
        Source.outline (·.value 0) (some (ofDictionary entries identity)) =
          pure (Value.dictionary entries).toJson ∧
      ∃ container : Container, ofDictionary entries identity = container.toSource ∧
        container.Mirrors (.dictionary entries) := by
  constructor
  · exact (showsAs_ofEntry distinct identity).outline
  · have made := present_eq (ofEntries entries) identity
    exact ⟨_, made, mirrors_ofDictionary made⟩

def nestedEntries : Dictionary :=
  [("a", .dictionary [("", .empty), ("b", .single .int 3)]), ("c", .dictionary [])]

theorem ofDictionary_faithful_nestedEntries :
    (Value.dictionary nestedEntries).KeysDistinct ∧
      Outline.toJsonPresent <$>
          Source.outline (·.value 0) (some (ofDictionary nestedEntries (.whole 0))) =
            pure (.object [("a", .object [("", .null), ("b", .whole 3)]), ("c", .object [])]) ∧
      ∃ container : Container, ofDictionary nestedEntries (.whole 0) = container.toSource ∧
        (∃ sampled : Sampled, container.find ⟨["a", "b"]⟩ = pure (some (.sampled sampled)) ∧
          ∀ time, sampled.value time = pure (.single .int 3)) ∧
        (∃ identity, container.find ⟨["c"]⟩ = pure (some (ofDictionary [] identity))) ∧
        container.find ⟨["a", "b", ""]⟩ = pure none := by
  have distinct : (Value.dictionary nestedEntries).KeysDistinct := by
    have inner : (Value.dictionary [("", .empty), ("b", .single .int 3)]).KeysDistinct := by
      refine .dictionary (by decide) fun entry member => ?_
      simp only [List.mem_cons, List.not_mem_nil, or_false] at member
      rcases member with rfl | rfl
      · exact .leaf nofun
      · exact .leaf nofun
    refine .dictionary (by decide) fun entry member => ?_
    simp only [nestedEntries, List.mem_cons, List.not_mem_nil, or_false] at member
    rcases member with rfl | rfl
    · exact inner
    · exact .dictionary List.nodup_nil nofun
  rcases ofDictionary_faithful nestedEntries distinct (.whole 0) with
    ⟨shown, container, made, mirrors⟩
  refine ⟨distinct, shown, container, made, ?_, ?_, ?_⟩
  · exact mirrors.constant ["a", "b"] _ rfl nofun
  · exact mirrors.inner ["c"] [] rfl
  · exact mirrors.nowhere ["a", "b", ""] rfl

end Blueprint

end LayeredScene
