import LayeredScene.Locator.Order

/-! # Locator sets

A change to the data of a prim is described by the places that changed. A place that changed has
everything inside it changed as well, so a set keeps outermost places only: its members are in
order and none lies under another. Sets with the same places are then the same set.
-/

namespace LayeredScene

structure LocatorSet where
  members : List Locator
deriving DecidableEq, Repr, Inhabited

namespace LocatorSet

def empty : LocatorSet := ⟨[]⟩

def isEmpty (set : LocatorSet) : Bool := set.members.isEmpty

def size (set : LocatorSet) : Nat := set.members.length

def place (locator : Locator) : List Locator → List Locator
  | [] => [locator]
  | first :: rest =>
      if (compare first locator).isLT then first :: place locator rest else locator :: first :: rest

/-- Add a place. One that is already inside a member adds nothing; one that contains members takes
their place. -/
def insert (set : LocatorSet) (locator : Locator) : LocatorSet :=
  if set.members.any (locator.liesUnder ·) then set
  else ⟨place locator (set.members.filter fun member => !member.liesUnder locator)⟩

def union (set other : LocatorSet) : LocatorSet := other.members.foldl insert set

def ofList (locators : List Locator) : LocatorSet := locators.foldl insert empty

def single (locator : Locator) : LocatorSet := empty.insert locator

def universal : LocatorSet := single .whole

/-- Whether a place is in the set: it is a member or inside of one. -/
def contains (set : LocatorSet) (locator : Locator) : Bool :=
  set.members.any (locator.liesUnder ·)

def meetsLocator (set : LocatorSet) (locator : Locator) : Bool := set.members.any (·.meets locator)

def meets (set other : LocatorSet) : Bool := set.members.any other.meetsLocator

/-- The part of a set inside one place. -/
def within (set : LocatorSet) (locator : Locator) : LocatorSet :=
  set.members.foldl
    (fun narrowed member =>
      if member.liesUnder locator then narrowed.insert member
      else if locator.liesUnder member then narrowed.insert locator
      else narrowed)
    empty

def rebase (set : LocatorSet) (old new : Locator) : LocatorSet :=
  ofList (set.members.map (·.rebase old new))

theorem mem_place {locator other : Locator} {members : List Locator} :
    other ∈ place locator members ↔ other = locator ∨ other ∈ members := by
  induction members with
  | nil => simp [place]
  | cons first rest inductionHypothesis =>
      simp only [place]
      split
      · simp only [List.mem_cons, inductionHypothesis]
        constructor
        · rintro (equal | equal | member) <;> simp_all
        · rintro (equal | equal | member) <;> simp_all
      · simp

theorem contains_insert {set : LocatorSet} {locator place : Locator} :
    (set.insert locator).contains place = true ↔
      set.contains place = true ∨ place.liesUnder locator = true := by
  simp only [insert]
  split
  · rename_i covered
    simp only [List.any_eq_true] at covered
    obtain ⟨member, isMember, under⟩ := covered
    constructor
    · exact Or.inl
    · rintro (inSet | inside)
      · exact inSet
      · simp only [contains, List.any_eq_true]
        exact ⟨member, isMember, Locator.liesUnder_trans inside under⟩
  · simp only [contains, List.any_eq_true, mem_place, List.mem_filter]
    constructor
    · rintro ⟨member, equal | ⟨isMember, _⟩, under⟩
      · exact Or.inr (equal ▸ under)
      · exact Or.inl ⟨member, isMember, under⟩
    · rintro (⟨member, isMember, under⟩ | inside)
      · by_cases covered : member.liesUnder locator = true
        · exact ⟨locator, Or.inl rfl, Locator.liesUnder_trans under covered⟩
        · exact ⟨member, Or.inr ⟨isMember, by simpa using covered⟩, under⟩
      · exact ⟨locator, Or.inl rfl, inside⟩

theorem contains_foldl_insert {locators : List Locator} {set : LocatorSet} {place : Locator} :
    (locators.foldl insert set).contains place = true ↔
      set.contains place = true ∨ ∃ locator ∈ locators, place.liesUnder locator = true := by
  induction locators generalizing set with
  | nil => simp
  | cons locator locators induction =>
      rw [List.foldl_cons, induction, contains_insert, or_assoc]
      simp

theorem contains_union {set other : LocatorSet} {place : Locator} :
    (set.union other).contains place = true ↔
      set.contains place = true ∨ other.contains place = true := by
  rw [union, contains_foldl_insert, contains, contains, List.any_eq_true, List.any_eq_true]

theorem contains_ofList {locators : List Locator} {place : Locator} :
    (ofList locators).contains place = true ↔
      ∃ locator ∈ locators, place.liesUnder locator = true := by
  rw [ofList, contains_foldl_insert]
  simp [contains, empty]

theorem contains_of_liesUnder {set : LocatorSet} {place inner : Locator}
    (isIn : set.contains place = true) (under : inner.liesUnder place = true) :
    set.contains inner = true := by
  rcases List.any_eq_true.mp isIn with ⟨member, isMember, placeUnder⟩
  exact List.any_eq_true.mpr ⟨member, isMember, Locator.liesUnder_trans under placeUnder⟩

theorem meets_of_meetsLocator {set other : LocatorSet} {place : Locator}
    (touches : set.meetsLocator place = true) (isInOther : other.contains place = true) :
    set.meets other = true := by
  rcases List.any_eq_true.mp touches with ⟨member, isMember, meets⟩
  rcases List.any_eq_true.mp isInOther with ⟨otherMember, isOtherMember, under⟩
  have otherMeets : otherMember.meets member = true := by
    rw [Locator.meets, Bool.or_eq_true] at meets
    rcases meets with memberUnder | placeUnder
    · rw [Locator.meets, Locator.liesUnder_trans memberUnder under, Bool.or_true]
    · exact Locator.meets_of_liesUnder under placeUnder
  have otherTouches : other.meetsLocator member = true :=
    List.any_eq_true.mpr ⟨otherMember, isOtherMember, otherMeets⟩
  exact List.any_eq_true.mpr ⟨member, isMember, otherTouches⟩

theorem meets_of_contains {set other : LocatorSet} {place : Locator}
    (isIn : set.contains place = true) (isInOther : other.contains place = true) :
    set.meets other = true := by
  rcases List.any_eq_true.mp isIn with ⟨member, isMember, under⟩
  have meets : member.meets place = true := by rw [Locator.meets, under, Bool.or_true]
  exact meets_of_meetsLocator (List.any_eq_true.mpr ⟨member, isMember, meets⟩) isInOther

end LocatorSet

end LayeredScene
