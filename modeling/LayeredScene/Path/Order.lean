import LayeredScene.Path.Basic

/-! # The order of paths

Comparing paths is a total order. A path comes no later than anything that lies under it, and
whatever comes between two paths under it lies under it too: a subtree is an interval of the order,
with the prim at its top first.
-/

namespace LayeredScene.Path

/-! ## A total order -/

@[simp] theorem compare_empty_empty : compare Path.empty Path.empty = .eq := rfl

@[simp] theorem compare_empty_absolute (prims : List Token) (property : Option Token) :
    compare Path.empty (absolute prims property) = .lt := rfl

@[simp] theorem compare_absolute_empty (prims : List Token) (property : Option Token) :
    compare (absolute prims property) Path.empty = .gt := rfl

theorem compare_absolute (prims otherPrims : List Token) (property otherProperty : Option Token) :
    compare (absolute prims property) (absolute otherPrims otherProperty) =
      (compare prims otherPrims).then (compare property otherProperty) := rfl

theorem isLE_compare_absolute {prims otherPrims : List Token}
    {property otherProperty : Option Token} :
    (compare (absolute prims property) (absolute otherPrims otherProperty)).isLE = true ↔
      compare prims otherPrims = .lt ∨
        prims = otherPrims ∧ (compare property otherProperty).isLE = true := by
  rw [compare_absolute, ← Std.compare_eq_iff_eq (a := prims)]
  cases compare prims otherPrims <;> simp

instance : Std.OrientedOrd Path where
  eq_swap {path other} := by
    cases path with
    | empty => cases other <;> rfl
    | absolute prims property =>
        cases other with
        | empty => rfl
        | absolute otherPrims otherProperty =>
            rw [compare_absolute, compare_absolute, Ordering.swap_then,
              ← Std.OrientedOrd.eq_swap, ← Std.OrientedOrd.eq_swap]

instance : Std.TransOrd Path where
  isLE_trans {first second third} := by
    intro firstSecond secondThird
    cases first with
    | empty => cases third <;> rfl
    | absolute prims property =>
        cases second with
        | empty => simp at firstSecond
        | absolute secondPrims secondProperty =>
            cases third with
            | empty => simp at secondThird
            | absolute thirdPrims thirdProperty =>
                rw [isLE_compare_absolute] at firstSecond secondThird ⊢
                rcases firstSecond with before | ⟨rfl, noLater⟩
                · rcases secondThird with before' | ⟨rfl, _⟩
                  · exact .inl (Std.TransCmp.lt_trans before before')
                  · exact .inl before
                · rcases secondThird with before' | ⟨rfl, noLater'⟩
                  · exact .inl before'
                  · exact .inr ⟨rfl, Std.TransOrd.isLE_trans noLater noLater'⟩

instance : Std.LawfulEqOrd Path where
  eq_of_compare {path other} equal := by
    cases path with
    | empty => cases other <;> simp at equal ⊢
    | absolute prims property =>
        cases other with
        | empty => simp at equal
        | absolute otherPrims otherProperty =>
            rw [compare_absolute, Ordering.then_eq_eq] at equal
            rw [Std.LawfulEqOrd.eq_of_compare equal.1, Std.LawfulEqOrd.eq_of_compare equal.2]

theorem atOrBefore_refl (path : Path) : path.atOrBefore path = true := by
  simp [atOrBefore]

theorem atOrBefore_trans {first second third : Path} (earlier : first.atOrBefore second = true)
    (later : second.atOrBefore third = true) : first.atOrBefore third = true :=
  Std.TransOrd.isLE_trans earlier later

theorem atOrBefore_total (path other : Path) :
    (path.atOrBefore other || other.atOrBefore path) = true := by
  simp only [atOrBefore]
  rw [Std.OrientedOrd.eq_swap (a := other)]
  cases compare path other <;> rfl

theorem eq_of_atOrBefore {path other : Path} (noLater : path.atOrBefore other = true)
    (noEarlier : other.atOrBefore path = true) : path = other :=
  Std.LawfulEqOrd.eq_of_compare (Std.OrientedCmp.isLE_antisymm noLater noEarlier)

/-! ## Subtrees -/

theorem liesUnder_prim {path : Path} {above : List Token} :
    path.liesUnder (absolute above none) = true ↔
      ∃ rest property, path = absolute (above ++ rest) property := by
  cases path with
  | empty => simp [liesUnder]
  | absolute prims property =>
      simp only [liesUnder, List.isPrefixOf_iff_prefix, absolute.injEq]
      constructor
      · intro given
        rcases given with ⟨rest, rfl⟩
        exact ⟨rest, property, rfl, rfl⟩
      · intro given
        rcases given with ⟨rest, _, rfl, _⟩
        exact ⟨rest, rfl⟩

theorem liesUnder_property {path : Path} {above : List Token} {name : Token} :
    path.liesUnder (absolute above (some name)) = true ↔ path = absolute above (some name) := by
  cases path <;> simp [liesUnder]

@[simp] theorem not_liesUnder_empty (path : Path) : path.liesUnder .empty = false := by
  cases path <;> rfl

@[simp] theorem not_empty_liesUnder (path : Path) : Path.empty.liesUnder path = false := by
  cases path <;> rfl

theorem ne_empty_of_liesUnder {path above : Path} (under : path.liesUnder above = true) :
    path ≠ .empty ∧ above ≠ .empty := by
  constructor
  · intro same
    subst same
    simp at under
  · intro same
    subst same
    simp at under

theorem liesUnder_trans {path middle above : Path} (lower : path.liesUnder middle = true)
    (upper : middle.liesUnder above = true) : path.liesUnder above = true := by
  rcases above with _ | ⟨prims, _ | name⟩
  · simp at upper
  · rcases liesUnder_prim.mp upper with ⟨rest, property, rfl⟩
    cases property with
    | none =>
        rcases liesUnder_prim.mp lower with ⟨rest', property', rfl⟩
        exact liesUnder_prim.mpr ⟨rest ++ rest', property', by rw [List.append_assoc]⟩
    | some name =>
        rw [liesUnder_property.mp lower]
        exact upper
  · rw [liesUnder_property.mp upper] at lower
    exact lower

theorem prefix_of_between {above first middle last : List Token}
    (firstUnder : above <+: first) (lastUnder : above <+: last)
    (lower : (compare first middle).isLE = true) (upper : (compare middle last).isLE = true) :
    above <+: middle := by
  induction above generalizing first middle last with
  | nil => exact List.nil_prefix
  | cons name above induction =>
      rcases firstUnder with ⟨firstRest, rfl⟩
      rcases lastUnder with ⟨lastRest, rfl⟩
      cases middle with
      | nil => simp at lower
      | cons other middle =>
          simp only [List.cons_append, List.compare_eq_compareLex, List.compareLex_cons_cons]
            at lower upper
          have same : name = other := by
            apply Std.LawfulEqOrd.eq_of_compare
            rw [Std.OrientedOrd.eq_swap (a := other)] at upper
            cases order : compare name other <;> simp [order] at lower upper ⊢
          subst other
          simp only [Std.ReflOrd.compare_self, Ordering.eq_then] at lower upper
          exact List.cons_prefix_cons.mpr
            ⟨rfl, induction (List.prefix_append ..) (List.prefix_append ..) lower upper⟩

theorem prims_compare_of_atOrBefore {prims otherPrims : List Token}
    {property otherProperty : Option Token}
    (noLater : (absolute prims property).atOrBefore (absolute otherPrims otherProperty) = true) :
    (compare prims otherPrims).isLE = true := by
  rcases isLE_compare_absolute.mp noLater with before | ⟨rfl, _⟩
  · rw [before]
    rfl
  · simp

theorem liesUnder_of_between {above first middle last : Path}
    (firstUnder : first.liesUnder above = true) (lastUnder : last.liesUnder above = true)
    (lower : first.atOrBefore middle = true) (upper : middle.atOrBefore last = true) :
    middle.liesUnder above = true := by
  rcases above with _ | ⟨prims, _ | name⟩
  · simp at firstUnder
  · rcases liesUnder_prim.mp firstUnder with ⟨firstRest, firstProperty, rfl⟩
    rcases liesUnder_prim.mp lastUnder with ⟨lastRest, lastProperty, rfl⟩
    cases middle with
    | empty => simp [atOrBefore] at lower
    | absolute middlePrims property =>
        rcases prefix_of_between (List.prefix_append prims firstRest)
          (List.prefix_append prims lastRest) (prims_compare_of_atOrBefore lower)
          (prims_compare_of_atOrBefore upper) with ⟨rest, rfl⟩
        exact liesUnder_prim.mpr ⟨rest, property, rfl⟩
  · rw [liesUnder_property] at firstUnder lastUnder ⊢
    subst first last
    exact eq_of_atOrBefore upper lower

theorem compare_append_cons (prims : List Token) (name : Token) (rest : List Token) :
    compare prims (prims ++ name :: rest) = .lt := by
  induction prims with
  | nil => rfl
  | cons first prims induction =>
      rw [List.compare_eq_compareLex] at induction ⊢
      rw [List.cons_append, List.compareLex_cons_cons, Std.ReflOrd.compare_self, induction]
      rfl

theorem atOrBefore_of_liesUnder {path above : Path} (under : path.liesUnder above = true) :
    above.atOrBefore path = true := by
  rcases above with _ | ⟨prims, _ | name⟩
  · simp at under
  · rcases liesUnder_prim.mp under with ⟨rest, property, rfl⟩
    apply isLE_compare_absolute.mpr
    cases rest with
    | nil => exact .inr ⟨(List.append_nil prims).symm, by cases property <;> rfl⟩
    | cons name rest => exact .inl (compare_append_cons prims name rest)
  · rw [liesUnder_property.mp under]
    exact atOrBefore_refl _

theorem eq_of_liesUnder {path other : Path} (under : path.liesUnder other = true)
    (above : other.liesUnder path = true) : path = other :=
  eq_of_atOrBefore (atOrBefore_of_liesUnder above) (atOrBefore_of_liesUnder under)

theorem liesUnder_or_liesUnder {path first second : Path} (underFirst : path.liesUnder first = true)
    (underSecond : path.liesUnder second = true) :
    first.liesUnder second = true ∨ second.liesUnder first = true := by
  rcases Bool.or_eq_true_iff.mp (atOrBefore_total first second) with noLater | noEarlier
  · exact .inr (liesUnder_of_between (liesUnder_self (ne_empty_of_liesUnder underFirst).2) underFirst
      noLater (atOrBefore_of_liesUnder underSecond))
  · exact .inl (liesUnder_of_between (liesUnder_self (ne_empty_of_liesUnder underSecond).2)
      underSecond noEarlier (atOrBefore_of_liesUnder underFirst))

theorem elementCount_le_of_liesUnder {path above : Path} (under : path.liesUnder above = true) :
    above.elementCount ≤ path.elementCount := by
  rcases above with _ | ⟨prims, _ | name⟩
  · exact Nat.zero_le _
  · rcases liesUnder_prim.mp under with ⟨rest, property, rfl⟩
    cases property with
    | none => simp [elementCount]
    | some name =>
        simp only [elementCount, List.length_append]
        omega
  · exact Nat.le_of_eq (by rw [liesUnder_property.mp under])

/-! ## One step up -/

theorem eq_root_or_concat_of_isPrim {path : Path} (isPrim : path.isPrim = true) :
    path = .root ∨ ∃ prims name, path = absolute (prims ++ [name]) none := by
  rcases path with _ | ⟨prims, _ | name⟩
  · contradiction
  · rcases List.eq_nil_or_concat prims with rfl | ⟨above, name, rfl⟩
    · exact .inl rfl
    · exact .inr ⟨above, name, by rw [List.concat_eq_append]⟩
  · contradiction

@[simp] theorem parent_concat (prims : List Token) (name : Token) :
    (absolute (prims ++ [name]) none).parent = absolute prims none := by
  cases prims with
  | nil => rfl
  | cons first rest =>
      rw [List.cons_append, parent, ← List.cons_append, List.dropLast_concat]

theorem isPrim_parent {path : Path} (isPrim : path.isPrim = true) (notRoot : path ≠ .root) :
    path.parent.isPrim = true := by
  rcases eq_root_or_concat_of_isPrim isPrim with isRoot | ⟨prims, name, rfl⟩
  · exact absurd isRoot notRoot
  · rw [parent_concat]
    rfl

theorem isRoot_eq_false {path : Path} : path.isRoot = false ↔ path ≠ .root := by
  rcases path with _ | ⟨_ | ⟨first, rest⟩, _ | name⟩ <;> simp [isRoot, root]

theorem root_liesUnder_iff {path : Path} : Path.root.liesUnder path = true ↔ path = .root := by
  rcases path with _ | ⟨_ | ⟨first, rest⟩, _ | name⟩ <;> simp [root, liesUnder]

theorem liesUnder_root_iff {path : Path} : path.liesUnder .root = true ↔ path ≠ .empty := by
  cases path <;> simp [root, liesUnder]

theorem liesUnder_iff_parent {path above : Path} (isPrim : path.isPrim = true)
    (notRoot : path ≠ .root) :
    path.liesUnder above = true ↔ above = path ∨ path.parent.liesUnder above = true := by
  rcases eq_root_or_concat_of_isPrim isPrim with isRoot | ⟨prims, name, rfl⟩
  · exact absurd isRoot notRoot
  · rcases above with _ | ⟨above, _ | property⟩
    · simp
    · simp [liesUnder, List.prefix_concat_iff]
    · simp [liesUnder]

theorem liesUnder_parent {path : Path} (isPrim : path.isPrim = true) (notRoot : path ≠ .root) :
    path.liesUnder path.parent = true :=
  (liesUnder_iff_parent isPrim notRoot).mpr
    (.inr (liesUnder_self (ne_empty_of_isPrim (isPrim_parent isPrim notRoot))))

theorem of_liesUnder {holds : Path → Prop} (isPrim : ∀ path, holds path → path.isPrim = true)
    (step : ∀ path, holds path → path ≠ .root → holds path.parent) {path above : Path}
    (start : holds path) (under : path.liesUnder above = true) : holds above := by
  by_cases isRoot : path = .root
  · rw [isRoot] at start under
    rw [root_liesUnder_iff.mp under]
    exact start
  · rcases (liesUnder_iff_parent (isPrim path start) isRoot).mp under with rfl | parentUnder
    · exact start
    · exact of_liesUnder isPrim step (step path start isRoot) parentUnder
termination_by path.height
decreasing_by
  exact height_parent_lt (isEmpty_eq_false.mpr (ne_empty_of_isPrim (isPrim path start)))

theorem not_parent_liesUnder (path : Path) : path.parent.liesUnder path = false := by
  rcases path with _ | ⟨prims, _ | name⟩
  · rfl
  · rcases List.eq_nil_or_concat prims with rfl | ⟨above, name, rfl⟩
    · rfl
    · rw [List.concat_eq_append, parent_concat, Bool.eq_false_iff]
      intro under
      have shorter := (List.isPrefixOf_iff_prefix.mp under).length_le
      simp only [List.length_append, List.length_singleton] at shorter
      omega
  · simp [parent, liesUnder]

theorem elementCount_eq_of_parent {path : Path} (isPrim : path.isPrim = true)
    (notRoot : path ≠ .root) : path.elementCount = path.parent.elementCount + 1 := by
  rcases eq_root_or_concat_of_isPrim isPrim with isRoot | ⟨prims, name, rfl⟩
  · exact absurd isRoot notRoot
  · simp [elementCount]

theorem eq_of_liesUnder_siblings {path first second : Path} (firstPrim : first.isPrim = true)
    (secondPrim : second.isPrim = true) (firstNotRoot : first ≠ .root)
    (secondNotRoot : second ≠ .root) (siblings : first.parent = second.parent)
    (underFirst : path.liesUnder first = true) (underSecond : path.liesUnder second = true) :
    first = second := by
  rcases liesUnder_or_liesUnder underFirst underSecond with lower | lower
  · rcases (liesUnder_iff_parent firstPrim firstNotRoot).mp lower with same | parentLower
    · exact same.symm
    · rw [siblings, not_parent_liesUnder] at parentLower
      contradiction
  · rcases (liesUnder_iff_parent secondPrim secondNotRoot).mp lower with same | parentLower
    · exact same
    · rw [← siblings, not_parent_liesUnder] at parentLower
      contradiction

end LayeredScene.Path
