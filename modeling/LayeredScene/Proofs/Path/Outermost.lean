import LayeredScene.Path.Cover
import LayeredScene.Search.Increasing

/-! # Smallest covers

The smallest cover of some paths holds the outermost of them: those that lie under no other one. All
of the paths are outermost or lie under one that is, so what the paths cover, the outermost ones
cover. In which order the paths are given and how often makes no difference, and a smallest cover is
its own smallest cover.
-/

namespace LayeredScene.Path

variable {paths cover : List Path} {path top : Path}

theorem compare_of_atOrBefore {other : Path} (noLater : path.atOrBefore other = true)
    (different : path ≠ other) : compare path other = .lt := by
  cases order : compare path other with
  | lt => rfl
  | eq => exact absurd (Std.LawfulEqOrd.eq_of_compare order) different
  | gt =>
      rw [atOrBefore, order] at noLater
      contradiction

namespace IsCover

theorem increasing (isCover : IsCover cover) : IsIncreasing cover := by
  apply isCover.imp
  intro earlier later separate
  exact compare_of_atOrBefore separate.1 separate.2.1

theorem eq_of_liesUnder (isCover : IsCover cover) (member : path ∈ cover) (isTop : top ∈ cover)
    (under : path.liesUnder top = true) : path = top := by
  have earlierApart : cover.Pairwise fun path top => path.liesUnder top = true → path = top := by
    apply isCover.imp
    intro earlier later separate earlierUnder
    exact eq_of_atOrBefore separate.1 (atOrBefore_of_liesUnder earlierUnder)
  have laterApart :
      cover.Pairwise (flip fun path top => path.liesUnder top = true → path = top) := by
    apply isCover.imp
    intro earlier later separate laterUnder
    rw [separate.2.2] at laterUnder
    contradiction
  exact List.Pairwise.forall_of_forall_of_flip (fun _ _ _ => rfl) earlierApart laterApart member
    isTop under

end IsCover

theorem mem_minimalCover_iff : path ∈ minimalCover paths ↔
    path ∈ paths ∧ ∀ other ∈ paths, other ≠ path → path.liesUnder other = false := by
  constructor
  · intro kept
    refine ⟨mem_of_mem_minimalCover kept, ?_⟩
    intro other member different
    apply Bool.eq_false_iff.mpr
    intro under
    rcases exists_mem_minimalCover member with ⟨top, isTop, isOther | above⟩
    · rw [isOther] at different under
      exact different ((isCover_minimalCover paths).eq_of_liesUnder kept isTop under).symm
    · have same := (isCover_minimalCover paths).eq_of_liesUnder kept isTop
        (liesUnder_trans under above)
      rw [← same] at above
      exact different (Path.eq_of_liesUnder above under)
  · intro outermost
    rcases exists_mem_minimalCover outermost.1 with ⟨top, isTop, same | under⟩
    · rw [same]
      exact isTop
    · by_cases same : top = path
      · rw [← same]
        exact isTop
      · rw [outermost.2 top (mem_of_mem_minimalCover isTop) same] at under
        contradiction

theorem exists_liesUnder_minimalCover_iff :
    (∃ top ∈ minimalCover paths, path.liesUnder top = true) ↔
      ∃ top ∈ paths, path.liesUnder top = true := by
  constructor
  · intro given
    rcases given with ⟨top, isTop, under⟩
    exact ⟨top, mem_of_mem_minimalCover isTop, under⟩
  · intro given
    rcases given with ⟨above, member, under⟩
    rcases exists_mem_minimalCover member with ⟨top, isTop, same | aboveUnder⟩
    · exact ⟨top, isTop, same ▸ under⟩
    · exact ⟨top, isTop, liesUnder_trans under aboveUnder⟩

theorem minimalCover_eq_of_mem_iff {others : List Path}
    (same : ∀ path, path ∈ others ↔ path ∈ paths) : minimalCover others = minimalCover paths := by
  apply (isCover_minimalCover others).increasing.eq_of_mem_iff
    (isCover_minimalCover paths).increasing
  intro path
  simp only [mem_minimalCover_iff, same]

theorem minimalCover_minimalCover (paths : List Path) :
    minimalCover (minimalCover paths) = minimalCover paths := by
  apply (isCover_minimalCover _).increasing.eq_of_mem_iff (isCover_minimalCover paths).increasing
  intro path
  rw [mem_minimalCover_iff, and_iff_left_iff_imp]
  intro kept other member different
  exact (mem_minimalCover_iff.mp kept).2 other (mem_of_mem_minimalCover member) different

/-- Dropping the paths that lie under another one leaves the outermost paths, each once and in
strictly increasing order. Every path given is one of them or lies under one of them. The same is
left of any list with the same members, in whatever order and however often they are listed, and
dropping again changes nothing. -/
theorem minimalCover_outermost (paths : List Path) :
    (minimalCover paths).Pairwise (fun earlier later => compare earlier later = .lt) ∧
    (∀ path, path ∈ minimalCover paths ↔
      path ∈ paths ∧ ∀ other ∈ paths, other ≠ path → path.liesUnder other = false) ∧
    (∀ path ∈ paths, path ∈ minimalCover paths ∨
      ∃ top ∈ minimalCover paths, path.liesUnder top = true) ∧
    (∀ others : List Path, (∀ path, path ∈ others ↔ path ∈ paths) →
      minimalCover others = minimalCover paths) ∧
    minimalCover (minimalCover paths) = minimalCover paths := by
  refine ⟨(isCover_minimalCover paths).increasing, fun _ => mem_minimalCover_iff, ?_,
    fun _ => minimalCover_eq_of_mem_iff, minimalCover_minimalCover paths⟩
  intro path member
  rcases exists_mem_minimalCover member with ⟨top, isTop, same | under⟩
  · rw [same]
    exact .inl isTop
  · exact .inr ⟨top, isTop, under⟩

/-- A property keeps neither its siblings nor the prims below its own prim out, the empty path keeps
nothing out, and the root keeps everything else out. -/
example :
    minimalCover [.absolute ["a", "b"] none, .absolute ["a"] (some "x"), .empty, .empty,
        .absolute ["a", "b"] (some "y")] =
      [.empty, .absolute ["a"] (some "x"), .absolute ["a", "b"] none] ∧
    minimalCover [.absolute ["a"] none, .root, .empty, .absolute ["a"] (some "x")] =
      [.empty, .root] := by
  constructor <;> cbv

end LayeredScene.Path
