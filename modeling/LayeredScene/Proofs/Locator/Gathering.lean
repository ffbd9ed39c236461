import LayeredScene.Locator.Set
import LayeredScene.Search.Increasing

/-! # Gathering places

A set of locators that was gathered place by place holds the outermost of these places, in order and
each once, so it is settled by the places that it contains. In which order they came, how often and
in which groups makes no difference.
-/

namespace LayeredScene

namespace LocatorSet

variable {set other : LocatorSet} {locator place : Locator} {members : List Locator}

/-- The members of a set are in order, and none lies under another. -/
structure IsNormal (set : LocatorSet) : Prop where
  ordered : set.members.Pairwise fun earlier later => compare earlier later = .lt
  apart : ∀ member ∈ set.members, ∀ above ∈ set.members,
    member.liesUnder above = true → member = above

theorem ordered_place (ordered : members.Pairwise fun earlier later => compare earlier later = .lt)
    (absent : locator ∉ members) :
    (LocatorSet.place locator members).Pairwise fun earlier later => compare earlier later = .lt := by
  induction members with
  | nil => exact List.pairwise_singleton _ locator
  | cons first rest induction =>
      have parts := List.pairwise_cons.mp ordered
      have absentBelow := List.not_mem_of_not_mem_cons absent
      rw [LocatorSet.place]
      split
      · rename_i before
        apply List.pairwise_cons.mpr ⟨_, induction parts.2 absentBelow⟩
        intro later member
        rcases mem_place.mp member with isLocator | member
        · rw [isLocator]
          exact Ordering.isLT_iff_eq_lt.mp before
        · exact parts.1 later member
      · rename_i notBefore
        have before := Locator.compare_of_not_isLT (List.ne_of_not_mem_cons absent).symm notBefore
        apply List.pairwise_cons.mpr ⟨_, ordered⟩
        intro later member
        rcases List.mem_cons.mp member with isFirst | member
        · rw [isFirst]
          exact before
        · exact Std.TransCmp.lt_trans before (parts.1 later member)

theorem contains_of_mem (member : locator ∈ set.members) : set.contains locator = true :=
  List.any_eq_true.mpr ⟨locator, member, locator.liesUnder_self⟩

namespace IsNormal

theorem empty : LocatorSet.empty.IsNormal where
  ordered := .nil
  apart _ isMember := absurd isMember List.not_mem_nil

theorem insert (normal : set.IsNormal) (locator : Locator) : (set.insert locator).IsNormal := by
  rw [LocatorSet.insert]
  split
  · exact normal
  · rename_i notCovered
    have uncovered : ∀ member ∈ set.members, locator.liesUnder member = false := by
      intro member isMember
      apply Bool.eq_false_iff.mpr
      intro under
      exact notCovered (List.any_eq_true.mpr ⟨member, isMember, under⟩)
    have kept : ∀ member ∈ set.members.filter (fun member => !member.liesUnder locator),
        member ∈ set.members ∧ member.liesUnder locator = false := by
      intro member isKept
      simpa using List.mem_filter.mp isKept
    constructor
    · apply ordered_place (normal.ordered.filter _)
      intro isKept
      have notUnder := (kept locator isKept).2
      rw [locator.liesUnder_self] at notUnder
      contradiction
    · intro member isMember above isAbove under
      rcases mem_place.mp isMember with rfl | isKept
      · rcases mem_place.mp isAbove with rfl | aboveKept
        · rfl
        · rw [uncovered above (kept above aboveKept).1] at under
          contradiction
      · rcases mem_place.mp isAbove with rfl | aboveKept
        · rw [(kept member isKept).2] at under
          contradiction
        · exact normal.apart member (kept member isKept).1 above (kept above aboveKept).1 under

theorem foldl_insert (normal : set.IsNormal) (locators : List Locator) :
    (locators.foldl LocatorSet.insert set).IsNormal := by
  induction locators generalizing set with
  | nil => exact normal
  | cons first rest induction => exact induction (normal.insert first)

theorem ofList (locators : List Locator) : (LocatorSet.ofList locators).IsNormal :=
  empty.foldl_insert locators

theorem union (normal : set.IsNormal) (other : LocatorSet) : (set.union other).IsNormal :=
  normal.foldl_insert other.members

theorem mem_iff (normal : set.IsNormal) :
    locator ∈ set.members ↔ set.contains locator = true ∧
      ∀ place, set.contains place = true → locator.liesUnder place = true → place = locator := by
  constructor
  · intro isMember
    refine ⟨contains_of_mem isMember, ?_⟩
    intro place isIn under
    rcases List.any_eq_true.mp isIn with ⟨above, isAbove, placeUnder⟩
    have same := normal.apart locator isMember above isAbove (Locator.liesUnder_trans under placeUnder)
    exact Locator.eq_of_liesUnder (same ▸ placeUnder) under
  · rintro ⟨isIn, outermost⟩
    rcases List.any_eq_true.mp isIn with ⟨above, isAbove, under⟩
    rw [← outermost above (contains_of_mem isAbove) under]
    exact isAbove

theorem eq_of_contains (normal : set.IsNormal) (otherNormal : other.IsNormal)
    (same : ∀ place, set.contains place = other.contains place) : set = other := by
  have inOrder : set.members = other.members := by
    apply IsIncreasing.eq_of_mem_iff normal.ordered otherNormal.ordered
    intro locator
    rw [normal.mem_iff, otherNormal.mem_iff]
    simp only [same]
  cases set
  cases other
  exact congrArg LocatorSet.mk inOrder

end IsNormal

end LocatorSet

/-! ## Ways to gather places -/

/-- A way to gather places in a set. -/
inductive Gathering
  | nothing
  | everything
  | listed (places : List Locator)
  | adding (gathering : Gathering) (place : Locator)
  /-- what was gathered elsewhere is added as a set -/
  | joining (gathering other : Gathering)

namespace Gathering

def set : Gathering → LocatorSet
  | nothing => .empty
  | everything => .universal
  | listed places => .ofList places
  | adding gathering place => gathering.set.insert place
  | joining gathering other => gathering.set.union other.set

def places : Gathering → List Locator
  | nothing => []
  | everything => [.whole]
  | listed places => places
  | adding gathering place => gathering.places ++ [place]
  | joining gathering other => gathering.places ++ other.places

theorem isNormal_set (gathering : Gathering) : gathering.set.IsNormal := by
  induction gathering with
  | nothing => exact .empty
  | everything => exact LocatorSet.IsNormal.empty.insert .whole
  | listed places => exact .ofList places
  | adding gathering place induction => exact induction.insert place
  | joining gathering other induction _ => exact induction.union other.set

theorem contains_set (gathering : Gathering) (place : Locator) :
    gathering.set.contains place = true ↔
      ∃ gathered ∈ gathering.places, place.liesUnder gathered = true := by
  induction gathering with
  | nothing => simp [set, places, LocatorSet.contains, LocatorSet.empty]
  | everything =>
      rw [set, places, LocatorSet.universal, LocatorSet.single, LocatorSet.contains_insert]
      simp [LocatorSet.contains, LocatorSet.empty]
  | listed places => exact LocatorSet.contains_ofList
  | adding gathering added induction =>
      rw [set, places, LocatorSet.contains_insert, induction]
      simp [or_and_right, exists_or]
  | joining gathering other induction otherInduction =>
      rw [set, places, LocatorSet.contains_union, induction, otherInduction]
      simp [or_and_right, exists_or]

theorem set_eq_iff (gathering other : Gathering) :
    gathering.set = other.set ↔ ∀ place, gathering.set.contains place = other.set.contains place := by
  constructor
  · intro same place
    rw [same]
  · exact (isNormal_set gathering).eq_of_contains (isNormal_set other)

/-- However places are gathered, the set is in normal form and contains just what lies under them.
It is the same set as another one if and only if both contain the same places, and that is so if the
same places were gathered, whatever their order and however often each of them came. -/
theorem set_canonical (gathering : Gathering) :
    gathering.set.IsNormal ∧
      (∀ place, gathering.set.contains place = true ↔
        ∃ gathered ∈ gathering.places, place.liesUnder gathered = true) ∧
      ∀ other : Gathering,
        (gathering.set = other.set ↔
          ∀ place, gathering.set.contains place = other.set.contains place) ∧
        ((∀ place, place ∈ gathering.places ↔ place ∈ other.places) →
          gathering.set = other.set) := by
  refine ⟨gathering.isNormal_set, gathering.contains_set, fun other => ⟨gathering.set_eq_iff other, ?_⟩⟩
  intro samePlaces
  apply (gathering.set_eq_iff other).mpr
  intro place
  rw [Bool.eq_iff_iff, contains_set, contains_set]
  simp only [samePlaces]

theorem set_canonical_reordered :
    (Gathering.listed [⟨["b"]⟩, ⟨["a", "x"]⟩, ⟨["a"]⟩]).set =
      (Gathering.joining (.adding .nothing ⟨["a"]⟩) (.listed [⟨["a", "x"]⟩, ⟨["b"]⟩, ⟨["a"]⟩])).set := by
  apply ((set_canonical _).2.2 _).2
  intro place
  simp only [places, List.nil_append, List.mem_cons, List.mem_append, List.not_mem_nil]
  tauto

end Gathering

end LayeredScene
