import LayeredScene.Delegate.Answers
import LayeredScene.SceneGlobals
import LayeredScene.Snapshot
import LayeredScene.TimeSamples.Indexed

/-! # Reading

Data sources are descriptions; reading one may have to ask a delegate, and what is costly to ask for
is remembered. `Surroundings` is what a reading consults, `Store` is what readings remember and
count, and `Reads α` is a reading that yields an `α`.
-/

namespace LayeredScene

structure Numbered (α : Type) where
  number : Nat
  content : α

structure PrimMemory where
  primvars : Snapshot (Numbered (List PrimvarDescriptor))
  computedPrimvars : Snapshot (Numbered (List ComputedPrimvarDescriptor))
  /-- the number of the container last made for the instancer topology -/
  instancerTopology : Snapshot Nat
  meshTopology : Snapshot MeshTopology
  curvesTopology : Snapshot CurvesTopology

def PrimMemory.blank : PrimMemory := ⟨.empty, .empty, .empty, .empty, .empty⟩

inductive Fetched
  | values
  | matrices
  | indexedValues
  /-- the categories of all instances -/
  | categories
deriving DecidableEq

def Fetched.Content : Fetched → Type
  | .values => TimeSamples Value
  | .matrices => TimeSamples Matrix
  | .indexedValues => IndexedTimeSamples Value
  | .categories => List (List Token)

/-- What readings remember and count. Objects made by readings are numbered, and what such an object
remembers is kept here under its number. -/
structure Store where
  /-- the number of the next object -/
  next : Nat
  /-- the questions put to delegates, by the delegate's number, the latest first -/
  asked : List (Nat × Query)
  /-- whether a look-up between samples had nothing on either side -/
  unbracketed : Bool
  prims : Nat → PrimMemory
  fetched : (sort : Fetched) → Nat → Snapshot sort.Content
  prototypes : Nat → Snapshot (List Path)

/-- The store before any reading. Number 0 is taken by the one object that all scenes share. -/
def Store.blank : Store where
  next := 1
  asked := []
  unbracketed := false
  prims _ := .blank
  fetched _ _ := .empty
  prototypes _ := .empty

instance : Inhabited Store := ⟨.blank⟩

structure Surroundings where
  delegates : Nat → Delegate
  /-- whether a type filter hides the prim at a path -/
  hides : Nat → Path → Bool
  /-- the globals that a filter publishes -/
  globals : Nat → SceneGlobals
  /-- the frame rate that the globals of a scene declare -/
  frameRate : Nat → Store → Float × Store

def Surroundings.bare : Surroundings where
  delegates _ := .silent
  hides _ _ := false
  globals _ := .initial
  frameRate _ store := (defaultTimeCodesPerSecond, store)

instance : Inhabited Surroundings := ⟨.bare⟩

def Reads (α : Type) : Type := Surroundings → Store → α × Store

namespace Reads

variable {α β : Type}

instance : Monad Reads where
  pure result := fun _ store => (result, store)
  bind reading proceed := fun around store =>
    proceed (reading around store).1 around (reading around store).2

instance : LawfulMonad Reads :=
  .mk' Reads (fun _ => rfl) (fun _ _ => rfl) (fun _ _ _ => rfl) (fun _ _ => rfl) (fun _ _ => rfl)
    (fun _ _ => rfl) (fun _ _ => rfl) (fun _ _ => rfl)

theorem bind_of_reads {reading : Reads α} {proceed : α → Reads β} {around : Surroundings}
    {store after : Store} {result : α} (reads : reading around store = (result, after)) :
    (reading >>= proceed) around store = proceed result around after := by
  show proceed (reading around store).1 around (reading around store).2 = _
  rw [reads]

def run (reading : Reads α) (around : Surroundings) (store : Store) : α × Store :=
  reading around store

def yieldsAlone (reading : Reads α) : α := (reading .bare .blank).1

def newNumber : Reads Nat := fun _ store => (store.next, { store with next := store.next + 1 })

def ask (delegate : Nat) (path : Path) (query : Query) (answer : PrimAnswers → α) : Reads α :=
  fun around store =>
    (answer (around.delegates delegate path),
      { store with asked := (delegate, query) :: store.asked })

/-- What was found between samples. Where nothing was, the reading as a whole is spoilt. -/
def bracketed [Inhabited α] : Option α → Reads α
  | some found => pure found
  | none => fun _ store => (default, { store with unbracketed := true })

def each (read : α → Reads β) : List α → Reads (List β)
  | [] => pure []
  | item :: rest => do
      let first ← read item
      let others ← each read rest
      return first :: others

end Reads

def replaced {α : Type} (family : Nat → α) (number : Nat) (entry : α) : Nat → α :=
  fun other => if other = number then entry else family other

structure Slot (α : Type) where
  look : Store → Snapshot α
  put : Store → Snapshot α → Store

namespace Slot

def fetched (sort : Fetched) (number : Nat) : Slot sort.Content where
  look store := store.fetched sort number
  put store snapshot :=
    { store with
      fetched := fun other =>
        if same : sort = other then same ▸ replaced (store.fetched sort) number snapshot
        else store.fetched other }

def prototypes (number : Nat) : Slot (List Path) where
  look store := store.prototypes number
  put store snapshot := { store with prototypes := replaced store.prototypes number snapshot }

def ofPrim {α : Type} (number : Nat) (look : PrimMemory → Snapshot α)
    (put : PrimMemory → Snapshot α → PrimMemory) : Slot α where
  look store := look (store.prims number)
  put store snapshot :=
    { store with prims := replaced store.prims number (put (store.prims number) snapshot) }

def primvars (number : Nat) : Slot (Numbered (List PrimvarDescriptor)) :=
  ofPrim number (·.primvars) fun memory snapshot => { memory with primvars := snapshot }

def computedPrimvars (number : Nat) : Slot (Numbered (List ComputedPrimvarDescriptor)) :=
  ofPrim number (·.computedPrimvars) fun memory snapshot =>
    { memory with computedPrimvars := snapshot }

def instancerTopology (number : Nat) : Slot Nat :=
  ofPrim number (·.instancerTopology) fun memory snapshot =>
    { memory with instancerTopology := snapshot }

def meshTopology (number : Nat) : Slot MeshTopology :=
  ofPrim number (·.meshTopology) fun memory snapshot => { memory with meshTopology := snapshot }

def curvesTopology (number : Nat) : Slot CurvesTopology :=
  ofPrim number (·.curvesTopology) fun memory snapshot => { memory with curvesTopology := snapshot }

end Slot

def Slot.forget {α : Type} (slot : Slot α) (store : Store) : Store :=
  slot.put store (slot.look store).invalidate

namespace Reads

def remembered {α : Type} (slot : Slot α) (build : Reads α) : Reads α := fun around store =>
  match (slot.look store).content with
  | some content => (content, store)
  | none =>
      let (content, after) := build around store
      (content, slot.put after ((slot.look after).built content))

end Reads

end LayeredScene
