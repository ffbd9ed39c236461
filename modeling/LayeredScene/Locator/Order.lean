import LayeredScene.Locator.Basic

/-! # The order of locators

Comparing locators, name by name, is a total order. Lying under is an order as well, in which two
places with something in common are never side by side: one of them is inside the other.
-/

namespace LayeredScene.Locator

/-! ## A total order -/

instance : Std.OrientedOrd Locator where
  eq_swap {locator other} := Std.OrientedOrd.eq_swap (a := locator.tokens) (b := other.tokens)

instance : Std.TransOrd Locator where
  isLE_trans {first second third} :=
    Std.TransOrd.isLE_trans (a := first.tokens) (b := second.tokens) (c := third.tokens)

instance : Std.LawfulEqOrd Locator where
  eq_of_compare {locator other} equal := by
    have sameTokens : locator.tokens = other.tokens := Std.LawfulEqOrd.eq_of_compare equal
    cases locator
    cases other
    exact congrArg mk sameTokens

theorem compare_of_not_isLT {locator other : Locator} (different : other ≠ locator)
    (notBefore : ¬(compare other locator).isLT = true) : compare locator other = .lt := by
  rw [Std.OrientedOrd.eq_swap]
  cases order : compare other locator with
  | lt => exact absurd (by rw [order]; rfl) notBefore
  | eq => exact absurd (Std.LawfulEqOrd.eq_of_compare order) different
  | gt => rfl

/-! ## Places inside of one another -/

theorem eq_of_liesUnder {locator other : Locator} (under : locator.liesUnder other = true)
    (otherUnder : other.liesUnder locator = true) : locator = other := by
  rw [liesUnder, List.isPrefixOf_iff_prefix] at under otherUnder
  have sameTokens := under.eq_of_length_le otherUnder.length_le
  cases locator
  cases other
  exact congrArg mk sameTokens.symm

theorem meets_of_liesUnder {inner locator other : Locator} (under : inner.liesUnder locator = true)
    (otherUnder : inner.liesUnder other = true) : locator.meets other = true := by
  rw [liesUnder, List.isPrefixOf_iff_prefix] at under otherUnder
  simp only [meets, liesUnder, Bool.or_eq_true, List.isPrefixOf_iff_prefix]
  exact List.prefix_or_prefix_of_prefix otherUnder under

theorem liesUnder_iff_exists_join {locator above : Locator} :
    locator.liesUnder above = true ↔ ∃ inner, locator = above.join inner := by
  rw [liesUnder_iff]
  constructor
  · rintro ⟨rest, continued⟩
    refine ⟨⟨rest⟩, ?_⟩
    cases locator
    exact congrArg mk continued.symm
  · rintro ⟨inner, rfl⟩
    exact ⟨inner.tokens, rfl⟩

theorem join_liesUnder_join (above inner other : Locator) :
    (above.join inner).liesUnder (above.join other) = inner.liesUnder other := by
  rw [Bool.eq_iff_iff, liesUnder, liesUnder, List.isPrefixOf_iff_prefix, List.isPrefixOf_iff_prefix]
  exact List.prefix_append_right_inj above.tokens

theorem join_injective {above inner other : Locator} (same : above.join inner = above.join other) :
    inner = other := by
  have sameTokens := List.append_cancel_left (congrArg tokens same)
  cases inner
  cases other
  exact congrArg mk sameTokens

theorem liesUnder_join (above inner : Locator) : (above.join inner).liesUnder above = true :=
  liesUnder_iff_exists_join.mpr ⟨inner, rfl⟩

theorem join_assoc (outer middle inner : Locator) :
    (outer.join middle).join inner = outer.join (middle.join inner) :=
  congrArg mk (List.append_assoc _ _ _)

end LayeredScene.Locator
