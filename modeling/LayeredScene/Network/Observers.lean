/-! # Observer lists

A scene index keeps a list of those who observe it, in the order they came. It does not keep them
alive: one that is gone stays in the list unnoticed until the list is next changed.
-/

namespace LayeredScene

structure Observers (α : Type) where
  registered : List α
deriving DecidableEq, Repr

namespace Observers

variable {α : Type} [DecidableEq α]

def none : Observers α := ⟨[]⟩

instance : Inhabited (Observers α) := ⟨none⟩

def live (observers : Observers α) (lives : α → Bool) : List α := observers.registered.filter lives

/-- Drop those who are gone and add one, unless it is there already. -/
def add (observers : Observers α) (lives : α → Bool) (observer : α) : Observers α :=
  let present := observers.live lives
  if present.contains observer then ⟨present⟩ else ⟨present ++ [observer]⟩

def remove (observers : Observers α) (lives : α → Bool) (observer : α) : Observers α :=
  ⟨(observers.live lives).filter (· ≠ observer)⟩

def count (observers : Observers α) (lives : α → Bool) : Nat := (observers.live lives).length

def isObserved (observers : Observers α) (lives : α → Bool) : Bool := observers.registered.any lives

def describe (observers : Observers α) (lives : α → Bool) : String :=
  "ObserverList(" ++ toString (observers.count lives) ++ " live)"

end Observers

end LayeredScene
