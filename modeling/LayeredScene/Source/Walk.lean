import LayeredScene.Source.Basic

/-! # Walking into data

A locator leads from a container through members that are containers to the member it points at. It
leads nowhere as soon as a member is absent or something on the way is no container. Turns lead on
from there, through vectors too.
-/

namespace LayeredScene

namespace Source

def child (source : Source) (name : Token) : Reads (Option Source) :=
  match source.container? with
  | some holder => holder.get name
  | none => pure none

def elementAt (source : Source) (position : Nat) : Reads (Option Source) :=
  match source with
  | .vector _ _ element => element position
  | _ => pure none

def size? : Source → Reads (Option Nat)
  | .vector _ size _ => some <$> size
  | _ => pure none

def walk : List Token → Source → Reads (Option Source)
  | [], source => pure (some source)
  | name :: rest, source => do
      match ← source.child name with
      | some next => walk rest next
      | none => return none

end Source

namespace Container

def find (container : Container) (locator : Locator) : Reads (Option Source) :=
  container.toSource.walk locator.tokens

def findSampled (container : Container) (locator : Locator) : Reads (Option Sampled) := do
  return (← container.find locator).bind Source.sampled?

def findContainer (container : Container) (locator : Locator) : Reads (Option Container) := do
  return (← container.find locator).bind Source.container?

end Container

inductive Turn
  | member (name : Token)
  | element (position : Nat)
  | nowhere
deriving DecidableEq, Repr

namespace Source

def turn (source : Source) : Turn → Reads (Option Source)
  | .member name => source.child name
  | .element position => source.elementAt position
  | .nowhere => pure none

def follow : Option Source → List Turn → Reads (Option Source)
  | some source, turn :: rest => do follow (← source.turn turn) rest
  | found, _ => pure found

def reach (root : Option Source) (locator : Locator) (turns : List Turn) :
    Reads (Option Source) := do
  match root with
  | some source => follow (← source.walk locator.tokens) turns
  | none => return none

end Source

namespace Source

theorem follow_nil (found : Option Source) : follow found [] = pure found := by
  cases found <;> rfl

theorem follow_single (source : Source) (turn : Turn) :
    follow (some source) [turn] = source.turn turn := by
  funext around store
  exact congrFun (congrFun (follow_nil (source.turn turn around store).1) around) _

theorem follow_append (found : Option Source) (turns more : List Turn) :
    follow found (turns ++ more) = (do follow (← follow found turns) more) := by
  induction turns generalizing found with
  | nil => cases found <;> rfl
  | cons turn turns induction =>
      cases found with
      | none => cases more <;> rfl
      | some source =>
          funext around store
          exact congrFun (congrFun (induction (source.turn turn around store).1) around) _

theorem walk_eq_follow (names : List Token) (source : Source) :
    source.walk names = follow (some source) (names.map .member) := by
  induction names generalizing source with
  | nil => rfl
  | cons name rest induction =>
      funext around store
      simp only [List.map_cons, follow, walk, bind, turn]
      cases source.child name around store with
      | mk found after =>
          cases found with
          | none => cases rest <;> rfl
          | some next => exact congrFun (congrFun (induction next) around) after

end Source

theorem Source.walk_append (start rest : List Token) (source : Source) :
    source.walk (start ++ rest) = (do
      match ← source.walk start with
      | some next => next.walk rest
      | none => return none) := by
  induction start generalizing source with
  | nil => rfl
  | cons name more inductionHypothesis =>
      funext around store
      simp only [List.cons_append, walk, bind, Pure.pure]
      cases found : source.child name around store with
      | mk result after =>
          cases result with
          | none => rfl
          | some next => exact congrFun (congrFun (inductionHypothesis next) around) after

end LayeredScene
