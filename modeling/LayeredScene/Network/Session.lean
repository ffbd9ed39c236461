import LayeredScene.Network.Build

/-! # Sessions

Whoever works with a network calls its parts by names. A name stands for one part of a sort at a
time: an index that takes the name of another takes its place, and the other is no longer held.
-/

namespace LayeredScene

inductive Part
  | index
  | listener
  | delegate
deriving DecidableEq, Repr

structure Session where
  network : Network
  names : Part → List (Token × Nat)

namespace Session

def empty : Session := ⟨.empty, fun _ => []⟩

instance : Inhabited Session := ⟨empty⟩

def number? (session : Session) (part : Part) (name : Token) : Option Nat :=
  (session.names part).lookup name

def name? (session : Session) (part : Part) (number : Nat) : Option Token :=
  ((session.names part).find? (·.2 = number)).map (·.1)

def rename (session : Session) (part : Part) (change : List (Token × Nat) → List (Token × Nat)) :
    Session :=
  { session with
    names := fun other =>
      if other = part then change (session.names other) else session.names other }

def give (session : Session) (part : Part) (name : Token) (number : Nat) : Session :=
  session.rename part fun names => (name, number) :: names.filter (·.1 ≠ name)

def giveIndex (session : Session) (name : Token) (number : Nat) : Session :=
  let network := match session.number? .index name with
    | some former => session.network.letGo former
    | none => session.network
  { session with network := network }.give .index name number

def dropIndex (session : Session) (number : Nat) : Session :=
  { session with network := session.network.letGo number }.rename .index
    (·.filter (·.2 ≠ number))

def dropListener (session : Session) (number : Nat) : Session :=
  { session with network := session.network.dropListener number }.rename .listener
    (·.filter (·.2 ≠ number))

def listener (session : Session) (name : Token) (attention : Attention) : Nat × Session :=
  match session.number? .listener name with
  | some number => (number, session)
  | none =>
      let (number, network) := session.network.addListener attention
      (number, { session with network := network }.give .listener name number)

def delegate (session : Session) (name : Token) : Nat × Session :=
  match session.number? .delegate name with
  | some number => (number, session)
  | none =>
      let number := (session.names .delegate).length
      (number, session.give .delegate name number)

def takeNews (session : Session) : List Heard × List Misuse × Session :=
  (session.network.heard, session.network.misuses,
    { session with network := { session.network with heard := [], misuses := [] } })

end Session

end LayeredScene
