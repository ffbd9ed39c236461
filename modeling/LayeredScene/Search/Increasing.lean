import Mathlib.Data.List.Nodup

/-! # Increasing lists

A list in which every item comes before all later ones holds each item once, and it is settled by
the items that it holds.
-/

namespace LayeredScene

variable {α : Type} [Ord α] {items others : List α}

def IsIncreasing (items : List α) : Prop :=
  items.Pairwise fun earlier later => compare earlier later = .lt

namespace IsIncreasing

theorem nodup [Std.ReflOrd α] (increasing : IsIncreasing items) : items.Nodup := by
  apply increasing.imp
  intro earlier later before same
  rw [same, Std.ReflOrd.compare_self] at before
  contradiction

theorem eq_of_mem_iff [Std.OrientedOrd α] (increasing : IsIncreasing items)
    (otherIncreasing : IsIncreasing others) (same : ∀ item, item ∈ items ↔ item ∈ others) :
    items = others := by
  have rearranged : items.Perm others :=
    (List.perm_ext_iff_of_nodup increasing.nodup otherIncreasing.nodup).mpr same
  apply rearranged.eq_of_pairwise _ increasing otherIncreasing
  intro item other _ _ before after
  rw [Std.OrientedOrd.eq_swap, before] at after
  contradiction

end IsIncreasing

end LayeredScene
