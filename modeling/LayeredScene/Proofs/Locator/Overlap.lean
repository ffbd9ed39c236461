import LayeredScene.Proofs.Locator.Gathering

/-! # What sets of places share

A set stands for all places that it contains, infinitely many unless it is empty. Two sets meet if
they share one of these, narrowing a set to a place leaves those of them inside the place, and
moving what is inside a place moves each of them, and moves it back again.
-/

namespace LayeredScene

namespace Locator

def shared? (locator other : Locator) : Option Locator :=
  if locator.liesUnder other then some locator
  else if other.liesUnder locator then some other
  else none

theorem liesUnder_shared {locator other inner : Locator} :
    (∃ part, locator.shared? other = some part ∧ inner.liesUnder part = true) ↔
      inner.liesUnder locator = true ∧ inner.liesUnder other = true := by
  rw [shared?]
  split
  · rename_i under
    constructor
    · rintro ⟨part, isPart, inside⟩
      cases isPart
      exact ⟨inside, liesUnder_trans inside under⟩
    · intro inside
      exact ⟨locator, rfl, inside.1⟩
  · rename_i notUnder
    split
    · rename_i otherUnder
      constructor
      · rintro ⟨part, isPart, inside⟩
        cases isPart
        exact ⟨liesUnder_trans inside otherUnder, inside⟩
      · intro inside
        exact ⟨other, rfl, inside.2⟩
    · rename_i otherNotUnder
      constructor
      · rintro ⟨part, isPart, _⟩
        cases isPart
      · intro inside
        have meets := meets_of_liesUnder inside.1 inside.2
        rw [Locator.meets, Bool.or_eq_true] at meets
        rcases meets with under | otherUnder
        · exact absurd under notUnder
        · exact absurd otherUnder otherNotUnder

end Locator

namespace LocatorSet

variable {set other : LocatorSet} {locator place inner old new : Locator}

theorem contains_iff : set.contains place = true ↔
    ∃ member ∈ set.members, place.liesUnder member = true :=
  List.any_eq_true

theorem isEmpty_eq_false_iff : set.isEmpty = false ↔ ∃ place, set.contains place = true := by
  rw [isEmpty, List.isEmpty_eq_false_iff_exists_mem]
  constructor
  · rintro ⟨member, isMember⟩
    exact ⟨member, contains_of_mem isMember⟩
  · rintro ⟨place, isIn⟩
    rcases contains_iff.mp isIn with ⟨member, isMember, _⟩
    exact ⟨member, isMember⟩

/-! ## Narrowing -/

theorem within_eq (set : LocatorSet) (locator : Locator) :
    set.within locator = ofList (set.members.filterMap (·.shared? locator)) := by
  rw [within, ofList, List.foldl_filterMap]
  congr 1
  funext narrowed member
  rw [Locator.shared?]
  split
  · rfl
  · split <;> rfl

theorem isNormal_within (set : LocatorSet) (locator : Locator) : (set.within locator).IsNormal := by
  rw [within_eq]
  exact .ofList _

theorem contains_within :
    (set.within locator).contains inner = true ↔
      set.contains inner = true ∧ inner.liesUnder locator = true := by
  rw [within_eq, contains_ofList, contains_iff]
  constructor
  · rintro ⟨part, member, inside⟩
    rcases List.mem_filterMap.mp member with ⟨whole, isMember, isPart⟩
    have both := Locator.liesUnder_shared.mp ⟨part, isPart, inside⟩
    exact ⟨⟨whole, isMember, both.1⟩, both.2⟩
  · rintro ⟨⟨whole, isMember, inside⟩, alsoInside⟩
    rcases Locator.liesUnder_shared.mpr ⟨inside, alsoInside⟩ with ⟨part, isPart, insidePart⟩
    exact ⟨part, List.mem_filterMap.mpr ⟨whole, isMember, isPart⟩, insidePart⟩

/-! ## Meeting -/

theorem meetsLocator_iff :
    set.meetsLocator locator = true ↔
      ∃ inner, set.contains inner = true ∧ inner.liesUnder locator = true := by
  rw [meetsLocator, List.any_eq_true]
  constructor
  · rintro ⟨member, isMember, meets⟩
    rw [Locator.meets, Bool.or_eq_true] at meets
    rcases meets with under | locatorUnder
    · exact ⟨member, contains_of_mem isMember, under⟩
    · exact ⟨locator, contains_iff.mpr ⟨member, isMember, locatorUnder⟩, locator.liesUnder_self⟩
  · rintro ⟨inner, isIn, under⟩
    rcases contains_iff.mp isIn with ⟨member, isMember, innerUnder⟩
    exact ⟨member, isMember, Locator.meets_of_liesUnder innerUnder under⟩

theorem meets_iff :
    set.meets other = true ↔
      ∃ place, set.contains place = true ∧ other.contains place = true := by
  constructor
  · intro meets
    rcases List.any_eq_true.mp meets with ⟨member, isMember, touches⟩
    rcases meetsLocator_iff.mp touches with ⟨place, isIn, under⟩
    exact ⟨place, contains_iff.mpr ⟨member, isMember, under⟩, isIn⟩
  · rintro ⟨place, isIn, isInOther⟩
    exact meets_of_contains isIn isInOther

theorem meets_comm (set other : LocatorSet) : set.meets other = other.meets set := by
  rw [Bool.eq_iff_iff, meets_iff, meets_iff]
  simp only [and_comm]

theorem meetsLocator_eq (set : LocatorSet) (locator : Locator) :
    set.meetsLocator locator = !(set.within locator).isEmpty := by
  rw [Bool.eq_iff_iff, meetsLocator_iff, Bool.not_eq_true', isEmpty_eq_false_iff]
  simp only [contains_within]

/-! ## Moving -/

theorem contains_rebase (inside : ∀ member ∈ set.members, member.liesUnder old = true) :
    (set.rebase old new).contains place = true ↔
      ∃ inner, place = new.join inner ∧ set.contains (old.join inner) = true := by
  rw [rebase, contains_ofList]
  constructor
  · rintro ⟨moved, isMoved, under⟩
    rcases List.mem_map.mp isMoved with ⟨member, isMember, rfl⟩
    rcases Locator.liesUnder_iff_exists_join.mp (inside member isMember) with ⟨outer, rfl⟩
    rw [Locator.rebase_join] at under
    rcases Locator.liesUnder_iff_exists_join.mp under with ⟨rest, rfl⟩
    refine ⟨outer.join rest, Locator.join_assoc new outer rest, contains_iff.mpr ⟨_, isMember, ?_⟩⟩
    rw [← Locator.join_assoc]
    exact Locator.liesUnder_join _ rest
  · rintro ⟨inner, rfl, isIn⟩
    rcases contains_iff.mp isIn with ⟨member, isMember, under⟩
    rcases Locator.liesUnder_iff_exists_join.mp (inside member isMember) with ⟨outer, rfl⟩
    refine ⟨new.join outer, List.mem_map.mpr ⟨_, isMember, Locator.rebase_join old outer new⟩, ?_⟩
    rw [Locator.join_liesUnder_join] at under ⊢
    exact under

theorem liesUnder_of_mem_rebase (inside : ∀ member ∈ set.members, member.liesUnder old = true) :
    ∀ member ∈ (set.rebase old new).members, member.liesUnder new = true := by
  intro member isMember
  rcases (contains_rebase inside).mp (contains_of_mem isMember) with ⟨inner, rfl, _⟩
  exact Locator.liesUnder_join new inner

theorem liesUnder_of_mem_within : ∀ member ∈ (set.within locator).members,
    member.liesUnder locator = true :=
  fun _ isMember => (contains_within.mp (contains_of_mem isMember)).2

theorem contains_rebase_within :
    ((set.within old).rebase old new).contains (new.join inner) = set.contains (old.join inner) := by
  rw [Bool.eq_iff_iff, contains_rebase liesUnder_of_mem_within]
  constructor
  · rintro ⟨same, isSame, isIn⟩
    rw [Locator.join_injective isSame]
    exact (contains_within.mp isIn).1
  · intro isIn
    exact ⟨inner, rfl, contains_within.mpr ⟨isIn, Locator.liesUnder_join old inner⟩⟩

theorem rebase_rebase (normal : set.IsNormal)
    (inside : ∀ member ∈ set.members, member.liesUnder old = true) :
    (set.rebase old new).rebase new old = set := by
  apply (LocatorSet.IsNormal.ofList _).eq_of_contains normal
  intro place
  rw [Bool.eq_iff_iff]
  refine (contains_rebase (liesUnder_of_mem_rebase inside)).trans ?_
  constructor
  · rintro ⟨inner, rfl, isIn⟩
    rcases (contains_rebase inside).mp isIn with ⟨same, isSame, isInSet⟩
    rw [Locator.join_injective isSame]
    exact isInSet
  · intro isIn
    rcases contains_iff.mp isIn with ⟨member, isMember, under⟩
    rcases Locator.liesUnder_iff_exists_join.mp
      (Locator.liesUnder_trans under (inside member isMember)) with ⟨inner, rfl⟩
    exact ⟨inner, rfl, (contains_rebase inside).mpr ⟨inner, rfl, isIn⟩⟩

/-- What sets do with their members they do with all places that they contain. Two sets meet, in
either order, if they share a place, and a set touches a place if narrowing it to the place leaves
something. Narrowed to a place it contains what it contained inside the place, and this can be moved
elsewhere and back. -/
theorem overlap_of_places (set other : LocatorSet) (locator old new : Locator) :
    set.meets other = other.meets set ∧
      (set.meets other = true ↔
        ∃ place, set.contains place = true ∧ other.contains place = true) ∧
      set.meetsLocator locator = !(set.within locator).isEmpty ∧
      (set.within locator).IsNormal ∧
      (∀ place, (set.within locator).contains place = true ↔
        set.contains place = true ∧ place.liesUnder locator = true) ∧
      (∀ inner, ((set.within old).rebase old new).contains (new.join inner) =
        set.contains (old.join inner)) ∧
      ((set.within old).rebase old new).rebase new old = set.within old :=
  ⟨set.meets_comm other, meets_iff, set.meetsLocator_eq locator, set.isNormal_within locator,
    fun _ => contains_within, fun _ => contains_rebase_within,
    rebase_rebase (set.isNormal_within old) liesUnder_of_mem_within⟩

end LocatorSet

end LayeredScene
