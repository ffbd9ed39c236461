import LayeredScene.Proofs.Scene.Descent
import LayeredScene.Scene.Cursor

/-! # What a cursor meets

Over a scene whose children form a tree, a cursor comes to an end, and it meets the paths that are
met by going down from its start: what waits is met after all that lies below the paths before it.
-/

namespace LayeredScene

variable {scene : Scene} {skips : Path → Bool} {path top : Path} {levels : Nat}

namespace Cursor

variable {cursor other : Cursor} {paths rest : List Path}

/-- A cursor meets some paths, one after the other, and then no more, if it is told after each path
that `skips` says to leave out what lies below it. -/
inductive Yields (scene : Scene) (skips : Path → Bool) : Cursor → List Path → Prop
  | done {cursor : Cursor} (atEnd : cursor.next? scene = none) : Yields scene skips cursor []
  | step {cursor after : Cursor} {path : Path} {rest : List Path}
      (met : cursor.next? scene = some (path, after))
      (onward : Yields scene skips (if skips path then after.skipping else after) rest) :
      Yields scene skips cursor (path :: rest)

theorem Yields.unique (yields : Yields scene skips cursor paths)
    (also : Yields scene skips cursor rest) : rest = paths := by
  induction yields generalizing rest with
  | done atEnd =>
      cases also with
      | done => rfl
      | step met => rw [met] at atEnd; contradiction
  | step met _ induction =>
      cases also with
      | done atEnd => rw [atEnd] at met; contradiction
      | step otherMet onward =>
          rw [met] at otherMet
          cases otherMet
          rw [induction onward]

theorem Yields.of_ahead (yields : Yields scene skips cursor paths)
    (same : other.ahead scene = cursor.ahead scene) : Yields scene skips other paths := by
  have next : other.next? scene = cursor.next? scene := by
    rw [next?, next?, same]
  cases yields with
  | done atEnd => exact .done (next.trans atEnd)
  | step met onward => exact .step (next.trans met) onward

end Cursor

namespace Scene.IsTree

open Cursor

variable {tops waiting rest : List Path}

theorem yields_all
    (each : ∀ top ∈ tops, ∀ waiting rest, Yields scene skips ⟨waiting, none⟩ rest →
      Yields scene skips ⟨top :: waiting, none⟩ (scene.underSkipping skips top ++ rest))
    (onward : Yields scene skips ⟨waiting, none⟩ rest) :
    Yields scene skips ⟨tops ++ waiting, none⟩
      (tops.flatMap (scene.underSkipping skips) ++ rest) := by
  induction tops with
  | nil => exact onward
  | cons top tops induction =>
      rw [List.flatMap_cons, List.append_assoc]
      apply each top List.mem_cons_self
      exact induction fun other member => each other (List.mem_cons_of_mem _ member)

theorem yields_top (tree : scene.IsTree)
    (below : Yields scene skips ⟨scene.children top ++ waiting, none⟩
      ((scene.children top).flatMap (scene.underSkipping skips) ++ rest))
    (onward : Yields scene skips ⟨waiting, none⟩ rest) :
    Yields scene skips ⟨top :: waiting, none⟩ (scene.underSkipping skips top ++ rest) := by
  rw [tree.underSkipping_eq]
  apply Yields.step rfl
  cases isSkipped : skips top with
  | true => exact onward
  | false => exact below.of_ahead rfl

theorem yields_waiting (tree : scene.IsTree) (enough : scene.height ≤ top.elementCount + levels)
    (onward : Yields scene skips ⟨waiting, none⟩ rest) :
    Yields scene skips ⟨top :: waiting, none⟩ (scene.underSkipping skips top ++ rest) := by
  induction levels generalizing top waiting rest with
  | zero =>
      apply tree.yields_top _ onward
      rw [tree.children_eq_nil enough]
      exact onward
  | succ levels induction =>
      apply tree.yields_top _ onward
      apply yields_all _ onward
      intro child member waiting rest
      have count := tree.elementCount_child member
      exact induction (by omega)

theorem yields_iff (tree : scene.IsTree) (skips : Path → Bool) (top : Path) (paths : List Path) :
    Yields scene skips (.startingAt top) paths ↔ paths = scene.underSkipping skips top := by
  have nothing : Yields scene skips ⟨[], none⟩ [] := .done rfl
  have enough : scene.height ≤ top.elementCount + scene.height := Nat.le_add_left _ _
  have yields : Yields scene skips (.startingAt top) (scene.underSkipping skips top ++ []) :=
    tree.yields_waiting enough nothing
  rw [List.append_nil] at yields
  constructor
  · exact yields.unique
  · intro same
    rw [same]
    exact yields

end Scene.IsTree

end LayeredScene
