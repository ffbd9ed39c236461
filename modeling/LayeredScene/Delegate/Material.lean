import LayeredScene.Delegate.Descriptors
import LayeredScene.Source.Retained

/-! # Materials of delegates

A material is a network of nodes per terminal. The networks become one set of nodes: a node that
several networks list is taken from the first of them, with its connections there. Terminals and
connections refer to nodes by the text of their paths.
-/

namespace LayeredScene

def connection (node : Path) (output : Token) : Blueprint :=
  .present [("upstreamNodePath", .token node.toText), ("upstreamNodeOutputName", .token output)]

def addByName {α : Type} (name : Token) (element : α) :
    List (Token × List α) → List (Token × List α)
  | [] => [(name, [element])]
  | (first, elements) :: rest =>
      if first = name then (first, elements ++ [element]) :: rest
      else (first, elements) :: addByName name element rest

def connectionsInto (node : Path) (relationships : List MaterialRelationship) :
    List (Token × List Blueprint) :=
  (relationships.filter (·.outputNode = node)).foldl
    (fun inputs relationship =>
      addByName relationship.outputName
        (connection relationship.inputNode relationship.inputName) inputs)
    []

def nodeBlueprint (node : MaterialNode) (relationships : List MaterialRelationship) : Blueprint :=
  .present [("nodeIdentifier", .token node.identifier),
    ("parameters", .present (node.parameters.map fun parameter =>
      (parameter.1, .present [("value", .ofValue parameter.2)]))),
    ("inputConnections", .present ((connectionsInto node.path relationships).map fun input =>
      (input.1, .elements (input.2.map some))))]

/-- Add the nodes of a network that are not there yet. -/
def addNodes (placed : List (Token × Blueprint)) (network : MaterialNetwork) :
    List (Token × Blueprint) :=
  network.nodes.foldl
    (fun placed node =>
      if placed.any (·.1 = node.path.toText) then placed
      else placed ++ [(node.path.toText, nodeBlueprint node network.relationships)])
    placed

def terminalsOf (networks : List (Token × MaterialNetwork)) : List (Token × Blueprint) :=
  networks.filterMap fun terminal =>
    terminal.2.nodes.getLast?.map fun node => (terminal.1, connection node.path terminal.1)

/-- The data of a material. Its networks are meant for every renderer, which the empty name stands
for. -/
def materialBlueprint (networks : List (Token × MaterialNetwork)) : Blueprint :=
  .present [("", .present
    [("nodes", .present (networks.foldl (fun placed terminal => addNodes placed terminal.2) [])),
      ("terminals", .present (terminalsOf networks))])]

def materialBindings (material : Path) : Blueprint :=
  .present [("", .present [("path", .path material)])]

end LayeredScene
