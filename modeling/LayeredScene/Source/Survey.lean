import LayeredScene.Source.Basic
import LayeredScene.TimeSamples.Basic

/-! # Surveys

A survey reads all of a data source: every member that a container names, every element of a vector,
and something of every sampled source on the way. Its outcome is an outline of the same shape, which
can be shown as indented text or as JSON.
-/

namespace LayeredScene

inductive Outline (α : Type)
  | container (members : List (Token × Option (Outline α)))
  | vector (elements : List (Option (Outline α)))
  | leaf (content : α)
  | block

namespace Source

variable {α : Type}

def surveyNames (look : Token → Surroundings → Store → Option (Outline α) × Store)
    (around : Surroundings) : List Token → Store → List (Token × Option (Outline α)) × Store
  | [], store => ([], store)
  | name :: rest, store =>
      let found := look name around store
      let others := surveyNames look around rest found.2
      ((name, found.1) :: others.1, others.2)

def surveyPositions (look : Nat → Surroundings → Store → Option (Outline α) × Store)
    (around : Surroundings) (position : Nat) : (remaining : Nat) → Store →
    List (Option (Outline α)) × Store
  | 0, store => ([], store)
  | remaining + 1, store =>
      let found := look position around store
      let others := surveyPositions look around (position + 1) remaining found.2
      (found.1 :: others.1, others.2)

mutual

def survey (read : Sampled → Surroundings → Store → α × Store) : Source → Surroundings → Store →
    Outline α × Store
  | .container _ names get, around, store =>
      let listed := names around store
      let members := surveyNames
        (fun name around store => surveyFound read (get name around store) around)
        around listed.1 listed.2
      (.container members.1, members.2)
  | .vector _ size element, around, store =>
      let counted := size around store
      let elements := surveyPositions
        (fun position around store => surveyFound read (element position around store) around)
        around 0 counted.1 counted.2
      (.vector elements.1, elements.2)
  | .sampled content, around, store =>
      let result := read content around store
      (.leaf result.1, result.2)
  | .block, _, store => (.block, store)

def surveyFound (read : Sampled → Surroundings → Store → α × Store) : Option Source × Store →
    Surroundings → Option (Outline α) × Store
  | (found, store), around => surveyPresent read found around store

def surveyPresent (read : Sampled → Surroundings → Store → α × Store) : Option Source →
    Surroundings → Store → Option (Outline α) × Store
  | none, _, store => (none, store)
  | some source, around, store =>
      let result := survey read source around store
      (some result.1, result.2)

end

def outline (read : Sampled → Reads α) (source : Option Source) : Reads (Option (Outline α)) :=
  surveyPresent (fun content => read content) source

end Source

namespace Outline

def placeByName {α : Type} (name : Token) (part : α) : List (Token × α) → List (Token × α)
  | [] => [(name, part)]
  | (first, present) :: rest =>
      if first < name then (first, present) :: placeByName name part rest
      else (name, part) :: (first, present) :: rest

def indent (level : Nat) : String := String.ofList (List.replicate level '\t')

def headed (level : Nat) : List (Token × String) → String
  | [] => ""
  | (name, text) :: rest => indent level ++ "[" ++ name ++ "]\n" ++ text ++ headed level rest

mutual

def print (level : Nat) : Outline Value → String
  | .container members => headed level (printMembers (level + 1) members)
  | .vector elements => printElements level 0 elements
  | .leaf value => indent level ++ value.display ++ "\n"
  | .block => indent level ++ "BLOCK\n"

def printMembers (level : Nat) : List (Token × Option (Outline Value)) → List (Token × String)
  | [] => []
  | (_, none) :: rest => printMembers level rest
  | (name, some member) :: rest =>
      placeByName name (member.print level) (printMembers level rest)

def printElements (level position : Nat) : List (Option (Outline Value)) → String
  | [] => ""
  | none :: rest =>
      indent level ++ "[" ++ toString position ++ "]\n" ++ indent (level + 1) ++ "NULL\n" ++
        printElements level (position + 1) rest
  | some element :: rest =>
      indent level ++ "[" ++ toString position ++ "]\n" ++ element.print (level + 1) ++
        printElements level (position + 1) rest

end

def printPresent (level : Nat) : Option (Outline Value) → String
  | none => indent level ++ "NULL\n"
  | some outline => outline.print level

mutual

def toJson : Outline Value → JsonDocument
  | .container members => .ofMembers (membersToJson members)
  | .vector elements => .list (elementsToJson elements)
  | .leaf value => value.toJson
  | .block => .null

def membersToJson : List (Token × Option (Outline Value)) → List (String × JsonDocument)
  | [] => []
  | (_, none) :: rest => membersToJson rest
  | (name, some member) :: rest => (name, member.toJson) :: membersToJson rest

def elementsToJson : List (Option (Outline Value)) → List JsonDocument
  | [] => []
  | none :: rest => .null :: elementsToJson rest
  | some element :: rest => element.toJson :: elementsToJson rest

end

def toJsonPresent : Option (Outline Value) → JsonDocument
  | none => .null
  | some outline => outline.toJson

end Outline

end LayeredScene
