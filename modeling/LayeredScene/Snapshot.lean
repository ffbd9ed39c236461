/-! # Snapshots

A snapshot keeps something that is costly to obtain: it is built when first asked for, kept until it
is dropped, and built anew when asked for after that. It counts how often that happened.
-/

namespace LayeredScene

structure Snapshot (α : Type) where
  content : Option α
  builds : Nat
deriving Inhabited

namespace Snapshot

variable {α : Type}

def empty : Snapshot α := ⟨none, 0⟩

def holding (content : α) : Snapshot α := ⟨some content, 0⟩

def store (snapshot : Snapshot α) (content : α) : Snapshot α :=
  { snapshot with content := some content }

def invalidate (snapshot : Snapshot α) : Snapshot α := { snapshot with content := none }

def built (snapshot : Snapshot α) (content : α) : Snapshot α := ⟨some content, snapshot.builds + 1⟩

def getOrBuild (snapshot : Snapshot α) (build : Unit → α) : α × Snapshot α :=
  match snapshot.content with
  | some content => (content, snapshot)
  | none =>
      let content := build ()
      (content, snapshot.built content)

def describe (snapshot : Snapshot α) : String :=
  "SnapshotCell \x7b populated: " ++ (if snapshot.content.isSome then "true" else "false") ++
    ", builds: " ++ toString snapshot.builds ++ " \x7d"

end Snapshot

end LayeredScene
