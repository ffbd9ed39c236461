import LayeredScene.Delegate.Material
import LayeredScene.Proofs.Path.Building
import LayeredScene.Proofs.Source.Blueprints
import Mathlib.Data.List.Basic
import Mathlib.Data.List.Induction

/-! # Connections in materials

A material has each node once, with the connections that the first network that lists it has into
it. So a connection into a node is there just if that network has it: a network that lists a node
again, with connections of its own into it, has these left out. Each terminal refers to a node that
is there.
-/

namespace LayeredScene

variable {α : Type}

/-! ## Connections by input -/

def elementsNamed (name : Token) (entries : List (Token × List α)) : List α :=
  ((entries.find? (·.1 = name)).map (·.2)).getD []

theorem elementsNamed_addByName (asked name : Token) (element : α)
    (entries : List (Token × List α)) :
    elementsNamed asked (addByName name element entries) =
      if name = asked then elementsNamed asked entries ++ [element]
      else elementsNamed asked entries := by
  induction entries with
  | nil => by_cases same : name = asked <;> simp [elementsNamed, addByName, same]
  | cons first rest induction =>
      simp only [elementsNamed, addByName, List.find?_cons] at induction ⊢
      by_cases isFirst : first.1 = name
      · by_cases same : name = asked
        · simp [isFirst, same]
        · simp [isFirst, same]
      · by_cases isAsked : first.1 = asked
        · have different : name ≠ asked := fun same => isFirst (isAsked.trans same.symm)
          simp [isAsked, different, Ne.symm different]
        · simpa [isFirst, isAsked] using induction

def feeding (relationships : List MaterialRelationship) (node : Path) (name : Token) :
    List MaterialRelationship :=
  (relationships.filter (·.outputNode = node)).filter (·.outputName = name)

theorem mem_feeding {relationships : List MaterialRelationship} {node : Path} {name : Token}
    {relationship : MaterialRelationship} :
    relationship ∈ feeding relationships node name ↔ relationship ∈ relationships ∧
      relationship.outputNode = node ∧ relationship.outputName = name := by
  rw [feeding, List.mem_filter, List.mem_filter, and_assoc, decide_eq_true_iff, decide_eq_true_iff]

theorem elementsNamed_connectionsInto (relationships : List MaterialRelationship) (node : Path)
    (name : Token) :
    elementsNamed name (connectionsInto node relationships) =
      (feeding relationships node name).map fun relationship =>
        connection relationship.inputNode relationship.inputName := by
  rw [connectionsInto, feeding]
  induction relationships.filter (·.outputNode = node) using List.reverseRecOn with
  | nil => rfl
  | append_singleton others last induction =>
      rw [List.foldl_concat, elementsNamed_addByName, induction, List.filter_append,
        List.map_append]
      by_cases same : last.outputName = name <;> simp [same]

def connectionTurns (node : Path) (name : Token) (position : Nat) : List Turn :=
  [.member "", .member "nodes", .member node.toText, .member "inputConnections", .member name,
    .element position]

structure Source.Connects (source : Source) (turns : List Turn) (node : Path) (output : Token) :
    Prop where
  node : source.HasValue (turns ++ [.member "upstreamNodePath"]) (.single .token node.toText)
  output : source.HasValue (turns ++ [.member "upstreamNodeOutputName"]) (.single .token output)

theorem Blueprint.LeadsTo.connects_iff {blueprint : Blueprint} {turns : List Turn}
    {upstream : Option (Path × Token)}
    (leads : blueprint.LeadsTo turns (upstream.map fun pair => connection pair.1 pair.2))
    (identity : Identity) (node : Path) (output : Token) :
    (blueprint identity).Connects turns node output ↔
      ∃ pair, upstream = some pair ∧ pair.1.toText = node.toText ∧ pair.2 = output := by
  cases upstream with
  | none =>
      constructor
      · intro connects
        have nowhere : blueprint.LeadsTo (turns ++ [.member "upstreamNodePath"])
            ((none : Option Token).map (constantOf (.single .token))) := leads.nowhere _
        have isValue := (nowhere.hasValue_iff identity).mp connects.node
        cases isValue
      · intro given
        rcases given with ⟨pair, isSome, _⟩
        cases isSome
  | some pair =>
      have leadsToNode : blueprint.LeadsTo (turns ++ [.member "upstreamNodePath"])
          ((some pair.1.toText).map (constantOf (.single .token))) :=
        leads.append (leadsTo_present _ _)
      have leadsToOutput : blueprint.LeadsTo (turns ++ [.member "upstreamNodeOutputName"])
          ((some pair.2).map (constantOf (.single .token))) :=
        leads.append (leadsTo_present _ _)
      constructor
      · intro connects
        have sameNode := (leadsToNode.hasValue_iff identity).mp connects.node
        have sameOutput := (leadsToOutput.hasValue_iff identity).mp connects.output
        simp only [Option.map_some, ValueType.wrap, Option.some_inj, Value.single.injEq, heq_eq_eq,
          true_and] at sameNode sameOutput
        exact ⟨pair, rfl, sameNode, sameOutput⟩
      · intro given
        rcases given with ⟨_, ⟨rfl⟩, sameNode, sameOutput⟩
        constructor
        · exact (leadsToNode.hasValue_iff identity).mpr (by rw [sameNode]; rfl)
        · exact (leadsToOutput.hasValue_iff identity).mpr (by rw [sameOutput]; rfl)

/-! ## Nodes -/

def MaterialNetwork.lists (network : MaterialNetwork) (path : Path) : Bool :=
  network.nodes.any (·.path = path)

def nodesOf (networks : List (Token × MaterialNetwork)) : List (Token × Blueprint) :=
  networks.foldl (fun placed terminal => addNodes placed terminal.2) []

variable {networks : List (Token × MaterialNetwork)} {terminal : Token × MaterialNetwork}
variable {path : Path}

theorem find?_addNodes (placed : List (Token × Blueprint)) (network : MaterialNetwork)
    (text : Token) :
    (addNodes placed network).find? (·.1 = text) =
      (placed.find? (·.1 = text)).or ((network.nodes.find? (·.path.toText = text)).map fun node =>
        (text, nodeBlueprint node network.relationships)) := by
  rw [addNodes]
  induction network.nodes generalizing placed with
  | nil => simp
  | cons node nodes induction =>
      rw [List.foldl_cons, induction, List.find?_cons]
      by_cases isThere : placed.any (·.1 = node.path.toText) = true
      · rw [if_pos isThere]
        by_cases same : node.path.toText = text
        · have found : (placed.find? (·.1 = text)).isSome = true := by
            rw [List.find?_isSome, ← same]
            exact List.any_eq_true.mp isThere
          rcases Option.isSome_iff_exists.mp found with ⟨entry, isEntry⟩
          rw [isEntry, Option.some_or, Option.some_or]
        · simp [same]
      · rw [if_neg isThere, List.find?_append]
        by_cases same : node.path.toText = text <;> simp [same]

theorem find?_nodesOf (networks : List (Token × MaterialNetwork)) (text : Token) :
    (nodesOf networks).find? (·.1 = text) =
      networks.findSome? fun terminal =>
        (terminal.2.nodes.find? (·.path.toText = text)).map fun node =>
          (text, nodeBlueprint node terminal.2.relationships) := by
  rw [nodesOf]
  induction networks using List.reverseRecOn with
  | nil => rfl
  | append_singleton others last induction =>
      rw [List.foldl_concat, find?_addNodes, induction, List.findSome?_append]
      simp

def AreRead (networks : List (Token × MaterialNetwork)) : Prop :=
  ∀ terminal ∈ networks, ∀ node ∈ terminal.2.nodes, ∃ text, Path.parse text = .ok node.path

theorem Path.eq_of_read {other : Path} (isRead : ∃ text, Path.parse text = .ok path)
    (otherRead : ∃ text, Path.parse text = .ok other) (same : path.toText = other.toText) :
    path = other := by
  rcases isRead with ⟨text, isRead⟩
  rcases otherRead with ⟨otherText, otherRead⟩
  exact Path.eq_of_toText (.of_spells (Path.parse_eq_ok_iff.mp isRead))
    (.of_spells (Path.parse_eq_ok_iff.mp otherRead)) same

theorem find?_eq_none_or (read : ∀ node ∈ terminal.2.nodes, ∃ text, Path.parse text = .ok node.path)
    (pathRead : ∃ text, Path.parse text = .ok path) :
    terminal.2.lists path = false ∧ terminal.2.nodes.find? (·.path.toText = path.toText) = none ∨
      terminal.2.lists path = true ∧ ∃ node, node.path = path ∧
        terminal.2.nodes.find? (·.path.toText = path.toText) = some node := by
  cases found : terminal.2.nodes.find? (·.path.toText = path.toText) with
  | none =>
      refine .inl ⟨?_, rfl⟩
      rw [MaterialNetwork.lists, List.any_eq_false]
      intro node isNode isPath
      apply List.find?_eq_none.mp found node isNode
      rw [of_decide_eq_true isPath]
      exact decide_eq_true rfl
  | some node =>
      have isNode := List.mem_of_find?_eq_some found
      have sameText := of_decide_eq_true (List.find?_some found :)
      have isPath := Path.eq_of_read (read node isNode) pathRead sameText
      exact .inr ⟨List.any_eq_true.mpr ⟨node, isNode, decide_eq_true isPath⟩, node, isPath, rfl⟩

theorem exists_node (read : AreRead networks) (member : terminal ∈ networks)
    (listed : terminal.2.lists path = true) :
    ∃ first node, networks.find? (·.2.lists path) = some first ∧ node.path = path ∧
      (nodesOf networks).find? (·.1 = path.toText) =
        some (path.toText, nodeBlueprint node first.2.relationships) := by
  have pathRead : ∃ text, Path.parse text = .ok path := by
    rcases List.any_eq_true.mp listed with ⟨node, isNode, isPath⟩
    rw [← of_decide_eq_true isPath]
    exact read terminal member node isNode
  rw [find?_nodesOf]
  induction networks with
  | nil => cases member
  | cons head rest induction =>
      have parts := List.forall_mem_cons.mp read
      rw [List.find?_cons, List.findSome?_cons]
      rcases find?_eq_none_or parts.1 pathRead with
        ⟨unlisted, absent⟩ | ⟨isListed, node, isPath, found⟩
      · have inRest : terminal ∈ rest := by
          rcases List.mem_cons.mp member with rfl | inRest
          · rw [unlisted] at listed
            cases listed
          · exact inRest
        rw [unlisted, absent]
        exact induction parts.2 inRest
      · rw [isListed, found]
        exact ⟨head, node, rfl, isPath, rfl⟩

/-! ## Places -/

theorem leadsTo_elementsNamed (entries : List (Token × List Blueprint)) (name : Token)
    (position : Nat) :
    (Blueprint.present (entries.map fun entry =>
      (entry.1, Blueprint.elements (entry.2.map some)))).LeadsTo [.member name, .element position]
        (elementsNamed name entries)[position]? := by
  have member := Blueprint.leadsTo_present (entries.map fun entry =>
    (entry.1, Blueprint.elements (entry.2.map some))) name
  have sameName : (entries.map fun entry => (entry.1, Blueprint.elements (entry.2.map some))).find?
      (·.1 = name) = (entries.find? (·.1 = name)).map fun entry =>
        (entry.1, Blueprint.elements (entry.2.map some)) := List.find?_map
  rw [sameName, Option.map_map] at member
  rw [elementsNamed]
  cases found : entries.find? (·.1 = name) with
  | none =>
      rw [found] at member
      exact member.nowhere [.element position]
  | some entry =>
      rw [found] at member
      exact member.append (Blueprint.leadsTo_elements entry.2 position)

theorem leadsTo_input (node : MaterialNode) (relationships : List MaterialRelationship)
    (name : Token) (position : Nat) :
    (nodeBlueprint node relationships).LeadsTo
      [.member "inputConnections", .member name, .element position]
      ((feeding relationships node.path name)[position]?.map fun relationship =>
        connection relationship.inputNode relationship.inputName) := by
  have inputs : (nodeBlueprint node relationships).LeadsTo [.member "inputConnections"]
      (some (.present ((connectionsInto node.path relationships).map fun input =>
        (input.1, .elements (input.2.map some))))) := Blueprint.leadsTo_present _ _
  rw [← List.getElem?_map, ← elementsNamed_connectionsInto]
  exact inputs.append (leadsTo_elementsNamed _ name position)

theorem leadsTo_whole (networks : List (Token × MaterialNetwork)) :
    (materialBlueprint networks).LeadsTo [.member ""]
      (some (.present [("nodes", .present (nodesOf networks)),
        ("terminals", .present (terminalsOf networks))])) :=
  Blueprint.leadsTo_present _ _

theorem leadsTo_nodes (networks : List (Token × MaterialNetwork)) :
    (materialBlueprint networks).LeadsTo [.member "", .member "nodes"]
      (some (.present (nodesOf networks))) :=
  (leadsTo_whole networks).append (Blueprint.leadsTo_present _ _)

theorem leadsTo_terminals (networks : List (Token × MaterialNetwork)) :
    (materialBlueprint networks).LeadsTo [.member "", .member "terminals"]
      (some (.present (terminalsOf networks))) :=
  (leadsTo_whole networks).append (Blueprint.leadsTo_present _ _)

theorem exists_connects_iff (read : AreRead networks) (member : terminal ∈ networks)
    (listed : terminal.2.lists path = true) (identity : Identity) :
    ∃ first, networks.find? (·.2.lists path) = some first ∧
      ∀ name position upstream output,
        (materialBlueprint networks identity).Connects (connectionTurns path name position) upstream
            output ↔
          ∃ relationship, (feeding first.2.relationships path name)[position]? = some relationship ∧
            relationship.inputNode.toText = upstream.toText ∧ relationship.inputName = output := by
  rcases exists_node read member listed with ⟨first, node, isFirst, rfl, found⟩
  refine ⟨first, isFirst, fun name position upstream output => ?_⟩
  have leadsToNode : (Blueprint.present (nodesOf networks)).LeadsTo [.member node.path.toText]
      (some (nodeBlueprint node first.2.relationships)) := by
    have leads := Blueprint.leadsTo_present (nodesOf networks) node.path.toText
    rw [found] at leads
    exact leads
  have leads : (materialBlueprint networks).LeadsTo (connectionTurns node.path name position)
      (((feeding first.2.relationships node.path name)[position]?.map fun relationship =>
        (relationship.inputNode, relationship.inputName)).map fun pair =>
          connection pair.1 pair.2) := by
    rw [Option.map_map]
    exact (leadsTo_nodes networks).append (leadsToNode.append (leadsTo_input node _ name position))
  rw [leads.connects_iff]
  simp

theorem nodup_terminalsOf (names : (networks.map (·.1)).Nodup) :
    ((terminalsOf networks).map (·.1)).Nodup := by
  rw [List.Nodup, List.pairwise_map] at names ⊢
  rw [terminalsOf, List.pairwise_filterMap]
  apply names.imp
  intro terminal other different made isMade otherMade isOtherMade
  rcases Option.map_eq_some_iff.mp isMade with ⟨_, _, rfl⟩
  rcases Option.map_eq_some_iff.mp isOtherMade with ⟨_, _, rfl⟩
  exact different

theorem connects_terminal (names : (networks.map (·.1)).Nodup) (member : terminal ∈ networks)
    {last : MaterialNode} (isLast : terminal.2.nodes.getLast? = some last) (identity : Identity) :
    (materialBlueprint networks identity).Connects
      [.member "", .member "terminals", .member terminal.1] last.path terminal.1 := by
  have isTerminal : (terminal.1, connection last.path terminal.1) ∈ terminalsOf networks := by
    apply List.mem_filterMap.mpr
    refine ⟨terminal, member, ?_⟩
    rw [isLast, Option.map_some]
  have leadsToTerminal := Blueprint.leadsTo_entry (nodup_terminalsOf names) isTerminal
  have leads : (materialBlueprint networks).LeadsTo
      [.member "", .member "terminals", .member terminal.1]
      ((some (last.path, terminal.1)).map fun pair => connection pair.1 pair.2) :=
    (leadsTo_terminals networks).append leadsToTerminal
  exact (leads.connects_iff identity _ _).mpr ⟨_, rfl, rfl, rfl⟩

structure Source.HasContainer (source : Source) (turns : List Turn) (name : Token) : Prop where
  named : ∃ names, askedAt (some source) turns .names = pure (.names names) ∧ name ∈ names
  kind : askedAt (some source) (turns ++ [.member name]) .kind = pure (.kind "container")

theorem hasContainer_node (read : AreRead networks) (member : terminal ∈ networks)
    (listed : terminal.2.lists path = true) (identity : Identity) :
    (materialBlueprint networks identity).HasContainer [.member "", .member "nodes"]
      path.toText := by
  rcases exists_node read member listed with ⟨first, node, _, _, found⟩
  constructor
  · rcases (leadsTo_nodes networks).askedAt identity with ⟨inner, asked⟩
    refine ⟨(nodesOf networks).map (·.1), ?_, ?_⟩
    · rw [asked]
      exact Blueprint.answer_present_names (nodesOf networks) inner
    · exact List.mem_map.mpr ⟨_, List.mem_of_find?_eq_some found, rfl⟩
  · have leadsToNode := Blueprint.leadsTo_present (nodesOf networks) path.toText
    rw [found] at leadsToNode
    rcases ((leadsTo_nodes networks).append leadsToNode).askedAt identity with ⟨inner, asked⟩
    rw [asked]
    rfl

/-! ## What is kept -/

/-- In a material a connection into a node that a network lists is there just if the first network
that lists the node has it, so a network that is the first to list a node loses none into it. The
terminal of a network that has nodes refers to the last of them, which is among the nodes. -/
theorem material_keeps_connections (identity : Identity)
    (names : (networks.map (·.1)).Nodup) (read : AreRead networks) :
    (∀ terminal ∈ networks, ∀ relationship ∈ terminal.2.relationships,
      terminal.2.lists relationship.outputNode = true →
      ∃ first, networks.find? (·.2.lists relationship.outputNode) = some first ∧
        (first = terminal → ∃ position, (materialBlueprint networks identity).Connects
          (connectionTurns relationship.outputNode relationship.outputName position)
          relationship.inputNode relationship.inputName) ∧
        ((∃ position, (materialBlueprint networks identity).Connects
            (connectionTurns relationship.outputNode relationship.outputName position)
            relationship.inputNode relationship.inputName) ↔
          ∃ kept ∈ first.2.relationships, kept.outputNode = relationship.outputNode ∧
            kept.outputName = relationship.outputName ∧
            kept.inputNode.toText = relationship.inputNode.toText ∧
            kept.inputName = relationship.inputName)) ∧
    ∀ terminal ∈ networks, ∀ last, terminal.2.nodes.getLast? = some last →
      (materialBlueprint networks identity).Connects
          [.member "", .member "terminals", .member terminal.1] last.path terminal.1 ∧
        (materialBlueprint networks identity).HasContainer [.member "", .member "nodes"]
          last.path.toText := by
  constructor
  · intro terminal member relationship isRelationship listed
    rcases exists_connects_iff read member listed identity with ⟨first, isFirst, connects⟩
    have kept : (∃ position, (materialBlueprint networks identity).Connects
        (connectionTurns relationship.outputNode relationship.outputName position)
        relationship.inputNode relationship.inputName) ↔
        ∃ kept ∈ first.2.relationships, kept.outputNode = relationship.outputNode ∧
          kept.outputName = relationship.outputName ∧
          kept.inputNode.toText = relationship.inputNode.toText ∧
          kept.inputName = relationship.inputName := by
      simp only [connects]
      constructor
      · intro given
        rcases given with ⟨position, kept, found, same⟩
        have parts := mem_feeding.mp (List.mem_of_getElem? found)
        exact ⟨kept, parts.1, parts.2.1, parts.2.2, same⟩
      · intro given
        rcases given with ⟨kept, isKept, sameNode, sameName, same⟩
        have feeds := mem_feeding.mpr ⟨isKept, sameNode, sameName⟩
        rcases List.getElem?_of_mem feeds with ⟨position, found⟩
        exact ⟨position, kept, found, same⟩
    refine ⟨first, isFirst, ?_, kept⟩
    intro isOwn
    subst isOwn
    exact kept.mpr ⟨relationship, isRelationship, rfl, rfl, rfl, rfl⟩
  · intro terminal member last isLast
    refine ⟨connects_terminal names member isLast identity, ?_⟩
    apply hasContainer_node read member
    have isNode := List.mem_of_getLast? isLast
    exact List.any_eq_true.mpr ⟨last, isNode, decide_eq_true rfl⟩

def sharedTexture : List (Token × MaterialNetwork) :=
  let place : MaterialNode := ⟨.absolute ["place"] none, "Place", []⟩
  let texture : MaterialNode := ⟨.absolute ["texture"] none, "Texture", []⟩
  let surface : MaterialNode := ⟨.absolute ["surface"] none, "Surface", []⟩
  [("displacement", ⟨[texture], []⟩),
    ("surface", ⟨[place, texture, surface],
      [⟨place.path, "result", texture.path, "st"⟩,
        ⟨texture.path, "color", surface.path, "color"⟩]⟩)]

theorem areRead_sharedTexture : AreRead sharedTexture := by
  have place : Path.parse "/place" = .ok (.absolute ["place"] none) := by decide +kernel
  have texture : Path.parse "/texture" = .ok (.absolute ["texture"] none) := by decide +kernel
  have surface : Path.parse "/surface" = .ok (.absolute ["surface"] none) := by decide +kernel
  intro terminal member node isNode
  simp only [sharedTexture, List.mem_cons, List.not_mem_nil, or_false] at member
  rcases member with rfl | rfl
  · simp only [List.mem_singleton] at isNode
    rw [isNode]
    exact ⟨_, texture⟩
  · simp only [List.mem_cons, List.not_mem_nil, or_false] at isNode
    rcases isNode with rfl | rfl | rfl
    · exact ⟨_, place⟩
    · exact ⟨_, texture⟩
    · exact ⟨_, surface⟩

theorem material_keeps_connections_sharedTexture :
    (∃ position, (materialBlueprint sharedTexture (.whole 1)).Connects
      (connectionTurns (.absolute ["surface"] none) "color" position)
      (.absolute ["texture"] none) "color") ∧
    (materialBlueprint sharedTexture (.whole 1)).Connects
      [.member "", .member "terminals", .member "surface"] (.absolute ["surface"] none)
      "surface" := by
  have kept := material_keeps_connections (.whole 1) (by decide) areRead_sharedTexture
  have isSurface : sharedTexture[1] ∈ sharedTexture := List.getElem_mem _
  constructor
  · rcases kept.1 sharedTexture[1] isSurface
      ⟨.absolute ["texture"] none, "color", .absolute ["surface"] none, "color"⟩ (by decide)
      (by decide) with ⟨first, isFirst, keeps, _⟩
    exact keeps (Option.some.inj isFirst.symm)
  · exact (kept.2 sharedTexture[1] isSurface _ rfl).1

/-- The connection into the texture is lost: the network that has it is not the first to list the
texture. -/
theorem not_keeps_connection_sharedTexture :
    (⟨.absolute ["place"] none, "result", .absolute ["texture"] none, "st"⟩ :
      MaterialRelationship) ∈ sharedTexture[1].2.relationships ∧
    sharedTexture[1].2.lists (.absolute ["texture"] none) = true ∧
    ¬∃ position, (materialBlueprint sharedTexture (.whole 1)).Connects
      (connectionTurns (.absolute ["texture"] none) "st" position) (.absolute ["place"] none)
      "result" := by
  have isSurface : sharedTexture[1] ∈ sharedTexture := List.getElem_mem _
  have listed : sharedTexture[1].2.lists (.absolute ["texture"] none) = true := by decide
  refine ⟨by decide, listed, ?_⟩
  intro given
  rcases given with ⟨position, connects⟩
  rcases exists_connects_iff areRead_sharedTexture isSurface listed (.whole 1) with
    ⟨first, isFirst, connectsIff⟩
  rcases (connectsIff "st" position _ _).mp connects with ⟨relationship, found, _⟩
  cases isFirst
  cases found

end LayeredScene
