import LayeredScene.Token

/-! # Locators

A locator says where inside the data of a prim a value is: `primvars.points` is the member `points`
of the member `primvars`. The empty locator is the whole of the data. Locators order token by
token, so a locator comes before everything below it.
-/

namespace LayeredScene

structure Locator where
  tokens : List Token
deriving DecidableEq, Repr, Inhabited

namespace Locator

def whole : Locator := ⟨[]⟩

instance : Ord Locator := ⟨fun locator other => compare locator.tokens other.tokens⟩

def isEmpty (locator : Locator) : Bool := locator.tokens.isEmpty

def size (locator : Locator) : Nat := locator.tokens.length

def append (locator : Locator) (name : Token) : Locator := ⟨locator.tokens ++ [name]⟩

def join (locator inner : Locator) : Locator := ⟨locator.tokens ++ inner.tokens⟩

def prepend (locator : Locator) (name : Token) : Locator := ⟨name :: locator.tokens⟩

def parent (locator : Locator) : Locator := ⟨locator.tokens.dropLast⟩

def tail (locator : Locator) : Locator := ⟨locator.tokens.tail⟩

/-- Whether a locator is `above` or points inside of it. -/
def liesUnder (locator above : Locator) : Bool := above.tokens.isPrefixOf locator.tokens

def meets (locator other : Locator) : Bool := locator.liesUnder other || other.liesUnder locator

def sharedTokens : List Token → List Token → List Token
  | first :: rest, other :: others =>
      if first = other then first :: sharedTokens rest others else []
  | _, _ => []

def common (locator other : Locator) : Locator := ⟨sharedTokens locator.tokens other.tokens⟩

/-- Move a locator from under `old` to the same place under `new`; one that is not under `old` stays
where it is. -/
def rebase (locator old new : Locator) : Locator :=
  if locator.liesUnder old then ⟨new.tokens ++ locator.tokens.drop old.tokens.length⟩ else locator

theorem liesUnder_iff {locator above : Locator} :
    locator.liesUnder above = true ↔ ∃ rest, above.tokens ++ rest = locator.tokens := by
  simp only [liesUnder, List.isPrefixOf_iff_prefix]
  rfl

theorem liesUnder_self (locator : Locator) : locator.liesUnder locator = true :=
  liesUnder_iff.2 ⟨[], by simp⟩

theorem liesUnder_trans {inner middle outer : Locator}
    (innerUnder : inner.liesUnder middle = true) (middleUnder : middle.liesUnder outer = true) :
    inner.liesUnder outer = true := by
  obtain ⟨rest, innerEq⟩ := liesUnder_iff.1 innerUnder
  obtain ⟨more, middleEq⟩ := liesUnder_iff.1 middleUnder
  exact liesUnder_iff.2 ⟨more ++ rest, by rw [← innerEq, ← middleEq, List.append_assoc]⟩

theorem rebase_join (old inner new : Locator) :
    (old.join inner).rebase old new = new.join inner := by
  have under : (old.join inner).liesUnder old = true := liesUnder_iff.2 ⟨inner.tokens, rfl⟩
  rw [rebase, if_pos under]
  simp [join]

end Locator

end LayeredScene
