import LayeredScene.Proofs.Source.Wrapping
import LayeredScene.Source.Retained

/-! # Where joined locators lead

A locator joined from two leads where the second one leads from what the first one leads to, which
has to be a container. A source that is put at a locator is found there, and nothing else is found
in the containers around it. -/

namespace LayeredScene

variable {identity : Identity} {leaf : Source} {tokens other : List Token}

namespace Source

/-- Where a locator leads from what was found. Nothing but a container is led on from. -/
def findFrom (found : Option Source) (locator : Locator) : Reads (Option Source) :=
  match found.bind container? with
  | some holder => holder.find locator
  | none => pure none

theorem walkBeyond_eq_findFrom {locator : Locator} (notWhole : locator ≠ .whole)
    (found : Option Source) : walkBeyond locator.tokens found = findFrom found locator := by
  cases found with
  | none => rfl
  | some source =>
      cases isContainer : source.container? with
      | some holder =>
          rw [toSource_of_container? isContainer]
          rfl
      | none =>
          rcases locator with ⟨tokens⟩
          cases tokens with
          | nil => contradiction
          | cons name rest =>
              rw [walkBeyond, walk_of_not_container isContainer, findFrom, Option.bind_some,
                isContainer]

/-! ## Containers made for one source -/

theorem nested_cons (identity : Identity) (leaf : Source) (name : Token) (rest : List Token) :
    nested identity leaf (name :: rest) = (Container.retained identity
      [(name, some (nested (identity.inner 0) leaf rest))]).toSource :=
  rfl

theorem walk_nested_cons (name next : Token) (rest more : List Token) :
    (nested identity leaf (name :: rest)).walk (next :: more) =
      if name = next then (nested (identity.inner 0) leaf rest).walk more else pure none := by
  rw [nested_cons, walk_toSource_cons, Container.retained, pure_bind, memberNamed, List.find?_cons]
  by_cases same : name = next
  · rw [if_pos same, decide_eq_true same]
    rfl
  · rw [if_neg same, decide_eq_false same]
    rfl

theorem walk_nested_append (identity : Identity) (leaf : Source) (start rest : List Token) :
    ∃ inner, (nested identity leaf (start ++ rest)).walk start =
      pure (some (nested inner leaf rest)) := by
  induction start generalizing identity with
  | nil => exact ⟨identity, rfl⟩
  | cons name start induction =>
      rw [List.cons_append, walk_nested_cons, if_pos rfl]
      exact induction (identity.inner 0)

theorem walk_nested (identity : Identity) (leaf : Source) (tokens : List Token) :
    (nested identity leaf tokens).walk tokens = pure (some leaf) := by
  have leads := walk_nested_append identity leaf tokens []
  rw [List.append_nil] at leads
  rcases leads with ⟨_, reached⟩
  exact reached

theorem walk_nested_of_apart (notInside : ¬tokens <+: other) (notAround : ¬other <+: tokens) :
    (nested identity leaf tokens).walk other = pure none := by
  induction tokens generalizing identity other with
  | nil => exact absurd List.nil_prefix notInside
  | cons name tokens induction =>
      cases other with
      | nil => exact absurd List.nil_prefix notAround
      | cons next other =>
          rw [walk_nested_cons]
          by_cases same : name = next
          · subst same
            rw [List.prefix_cons_inj] at notInside notAround
            rw [if_pos rfl]
            exact induction notInside notAround
          · rw [if_neg same]

end Source

namespace Container

variable {container : Container} {locator : Locator}

theorem find_join {rest : Locator} (notWhole : rest ≠ .whole) (container : Container)
    (start : Locator) :
    container.find (start.join rest) = container.find start >>= (Source.findFrom · rest) := by
  rw [find, Locator.join, Source.walk_append_eq_bind]
  exact bind_congr fun found => Source.walkBeyond_eq_findFrom notWhole found

/-- A container that has a source at a locator, containers around it, and nothing else. -/
structure HoldsOnly (container : Container) (locator : Locator) (leaf : Source) : Prop where
  there : container.find locator = pure (some leaf)
  inside : ∀ rest : Locator, rest ≠ .whole →
    container.find (locator.join rest) = Source.findFrom (some leaf) rest
  around : ∀ outer rest : Locator, rest ≠ .whole → outer.join rest = locator →
    ∃ holder : Container, container.find outer = pure (some holder.toSource)
  elsewhere : ∀ other : Locator, other.meets locator = false → container.find other = pure none

theorem find_of_nested (isNested : Source.nested identity leaf locator.tokens = container.toSource) :
    container.find locator = pure (some leaf) := by
  rw [find, ← isNested]
  exact Source.walk_nested identity leaf locator.tokens

theorem holdsOnly_of_nested
    (isNested : Source.nested identity leaf locator.tokens = container.toSource) :
    container.HoldsOnly locator leaf where
  there := find_of_nested isNested
  inside rest notWhole := by
    rw [find_join notWhole, find_of_nested isNested, pure_bind]
  around outer rest notWhole joined := by
    subst joined
    have leads := Source.walk_nested_append identity leaf outer.tokens rest.tokens
    rcases leads with ⟨inner, reached⟩
    rcases rest with ⟨tokens⟩
    cases tokens with
    | nil => contradiction
    | cons name tokens =>
        rw [find, ← isNested]
        exact ⟨_, reached⟩
  elsewhere other apart := by
    rw [Locator.meets, Bool.or_eq_false_iff, Locator.liesUnder, Locator.liesUnder,
      ← Bool.not_eq_true, ← Bool.not_eq_true, List.isPrefixOf_iff_prefix,
      List.isPrefixOf_iff_prefix] at apart
    rw [find, ← isNested]
    exact Source.walk_nested_of_apart apart.1 apart.2

/-- Locators lead on from one another, and a source that is put at a locator is found there: in the
container made for it, longer locators lead on into the source, shorter ones lead to containers, and
all others lead nowhere. -/
theorem find_join_and_nested :
    (∀ (container : Container) (start rest : Locator), rest ≠ .whole →
      container.find (start.join rest) = container.find start >>= (Source.findFrom · rest)) ∧
    ∀ (identity : Identity) (locator : Locator) (leaf : Source), locator ≠ .whole →
      ∃ container : Container, Source.nested identity leaf locator.tokens = container.toSource ∧
        container.HoldsOnly locator leaf := by
  constructor
  · intro container start rest notWhole
    exact find_join notWhole container start
  · intro identity locator leaf notWhole
    rcases locator with ⟨tokens⟩
    cases tokens with
    | nil => contradiction
    | cons name rest =>
        have isNested := Source.nested_cons identity leaf name rest
        exact ⟨_, isNested, holdsOnly_of_nested isNested⟩

def blocked : Container := retained (.whole 1) [("b", some .block)]

theorem find_join_and_nested_repeatedName :
    let locator : Locator := ⟨["a", "", "a"]⟩
    locator ≠ .whole ∧ (⟨["b"]⟩ : Locator) ≠ .whole ∧ ∃ container : Container,
      Source.nested (.whole 0) blocked.toSource locator.tokens = container.toSource ∧
        container.find locator = pure (some blocked.toSource) ∧
        container.find (locator.join ⟨["b"]⟩) = pure (some .block) ∧
        (∃ holder : Container, container.find ⟨["a", ""]⟩ = pure (some holder.toSource)) ∧
        container.find ⟨["a", "a"]⟩ = pure none := by
  intro locator
  have notWhole : locator ≠ .whole := by decide
  have restNotWhole : (⟨["b"]⟩ : Locator) ≠ .whole := by decide
  rcases find_join_and_nested with ⟨join, nested⟩
  rcases nested (.whole 0) locator blocked.toSource notWhole with ⟨container, isNested, holds⟩
  refine ⟨notWhole, restNotWhole, container, isNested, holds.there, ?_, ?_, ?_⟩
  · rw [join container locator ⟨["b"]⟩ restNotWhole, holds.there]
    rfl
  · exact holds.around ⟨["a", ""]⟩ ⟨["a"]⟩ (by decide) rfl
  · exact holds.elsewhere ⟨["a", "a"]⟩ (by decide)

end Container

end LayeredScene
