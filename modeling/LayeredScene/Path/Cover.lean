import LayeredScene.Path.Order
import LayeredScene.Search.Bisection

/-! # Covers

The smallest set of paths under which a given set of paths lies, and the question whether a path
lies under one of them. What lies under a path directly follows it in the order of paths, so one
pass over the sorted paths finds the smallest cover, and one member of it decides the question.
-/

namespace LayeredScene.Path

def dropCovered : Option Path → List Path → List Path
  | _, [] => []
  | none, path :: rest => path :: dropCovered (some path) rest
  | some kept, path :: rest =>
      if path = kept || path.liesUnder kept then dropCovered (some kept) rest
      else path :: dropCovered (some path) rest

def sorted (paths : List Path) : List Path := paths.mergeSort atOrBefore

/-- The given paths in order, less those that lie under another one. -/
def minimalCover (paths : List Path) : List Path := dropCovered none (sorted paths)

/-! ## Smallest covers -/

def IsCover (paths : List Path) : Prop :=
  paths.Pairwise fun earlier later =>
    earlier.atOrBefore later = true ∧ earlier ≠ later ∧ later.liesUnder earlier = false

theorem pairwise_sorted (paths : List Path) :
    (sorted paths).Pairwise fun earlier later => earlier.atOrBefore later = true := by
  apply List.pairwise_mergeSort
  · intro first second third
    exact atOrBefore_trans
  · exact atOrBefore_total

theorem dropCovered_sublist (kept : Option Path) (paths : List Path) :
    (dropCovered kept paths).Sublist paths := by
  fun_induction dropCovered kept paths with
  | case1 => exact .slnil
  | case2 path rest induction => exact induction.cons_cons path
  | case3 kept path rest _ induction => exact induction.cons path
  | case4 kept path rest _ induction => exact induction.cons_cons path

/-- What is kept of a sorted list after its first member is a smallest cover together with it. The
next path that is kept separates what comes later from what lies under the first. -/
theorem isCover_cons_dropCovered {kept : Path} {paths : List Path}
    (ordered : (kept :: paths).Pairwise fun earlier later => earlier.atOrBefore later = true) :
    IsCover (kept :: dropCovered (some kept) paths) := by
  induction paths generalizing kept with
  | nil => exact List.pairwise_singleton _ _
  | cons path rest induction =>
      have parts := List.pairwise_cons.mp ordered
      rw [dropCovered]
      split
      · exact induction (ordered.sublist (((List.Sublist.refl rest).cons path).cons_cons kept))
      · rename_i outside
        simp only [Bool.or_eq_true, decide_eq_true_eq, not_or, Bool.not_eq_true] at outside
        apply List.Pairwise.cons _ (induction parts.2)
        intro later member
        have keptFirst := parts.1 path List.mem_cons_self
        have pathFirst : path.atOrBefore later = true := by
          rcases List.mem_cons.mp member with rfl | member
          · exact atOrBefore_refl _
          · exact (List.pairwise_cons.mp parts.2).1 later
              ((dropCovered_sublist (some path) rest).mem member)
        refine ⟨atOrBefore_trans keptFirst pathFirst, ?_, ?_⟩
        · intro same
          subst same
          exact outside.1 (eq_of_atOrBefore pathFirst keptFirst)
        · apply Bool.eq_false_iff.mpr
          intro under
          have pathUnder := liesUnder_of_between
            (liesUnder_self (ne_empty_of_liesUnder under).2) under keptFirst pathFirst
          rw [outside.2] at pathUnder
          contradiction

theorem isCover_dropCovered {paths : List Path}
    (ordered : paths.Pairwise fun earlier later => earlier.atOrBefore later = true) :
    IsCover (dropCovered none paths) := by
  cases paths with
  | nil => exact .nil
  | cons path rest => exact isCover_cons_dropCovered ordered

theorem isCover_minimalCover (paths : List Path) : IsCover (minimalCover paths) :=
  isCover_dropCovered (pairwise_sorted paths)

theorem exists_mem_dropCovered (kept : Option Path) {paths : List Path} {path : Path}
    (member : path ∈ paths) :
    ∃ top ∈ kept.toList ++ dropCovered kept paths, path = top ∨ path.liesUnder top = true := by
  fun_induction dropCovered kept paths with
  | case1 => cases member
  | case2 first rest induction =>
      rcases List.mem_cons.mp member with rfl | member
      · exact ⟨path, List.mem_cons_self, .inl rfl⟩
      · exact induction member
  | case3 kept first rest covered induction =>
      rcases List.mem_cons.mp member with rfl | member
      · refine ⟨kept, List.mem_cons_self, ?_⟩
        simpa using covered
      · exact induction member
  | case4 kept first rest _ induction =>
      rcases List.mem_cons.mp member with rfl | member
      · exact ⟨path, by simp, .inl rfl⟩
      · rcases induction member with ⟨top, isTop, covers⟩
        exact ⟨top, List.mem_cons_of_mem kept isTop, covers⟩

theorem mem_of_mem_minimalCover {paths : List Path} {path : Path}
    (member : path ∈ minimalCover paths) : path ∈ paths :=
  List.mem_mergeSort.mp ((dropCovered_sublist none _).mem member)

theorem exists_mem_minimalCover {paths : List Path} {path : Path} (member : path ∈ paths) :
    ∃ top ∈ minimalCover paths, path = top ∨ path.liesUnder top = true :=
  exists_mem_dropCovered none (List.mem_mergeSort.mpr member)

/-! ## Looking up -/

def countAtOrBefore (cover : Array Path) (path : Path) : Nat :=
  bisect (fun position => (cover[position]?.getD .empty).atOrBefore path) 0 cover.size

/-- Whether a path lies under a member of a smallest cover. Only the last member that comes no later
than the path can be above it. -/
def liesUnderCover (cover : Array Path) (path : Path) : Bool :=
  match countAtOrBefore cover path with
  | 0 => false
  | count + 1 => path.liesUnder (cover[count]?.getD .empty)

end LayeredScene.Path
