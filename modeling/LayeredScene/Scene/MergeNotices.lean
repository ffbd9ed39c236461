import LayeredScene.Scene.Merge
import LayeredScene.Scene.Notice

/-! # Notices of merged scenes

What one of several merged scenes tells is passed on with the types that the merged prims have. A
removal is passed on as it is, and what the others still have at the removed paths comes back after
it.
-/

namespace LayeredScene.Scene

/-- What the others still have at and below a removed path, with the merged types. -/
def remaining (merged : Scene) (others : List Scene) (path : Path) : List (Path × Token) :=
  (others.filter (·.hasChild path)).flatMap fun other => (other.under path).map merged.typed

def onceEach (seen : List (Path × Token)) : List (Path × Token) → List (Path × Token)
  | [] => seen
  | entry :: rest => onceEach (if seen.contains entry then seen else seen ++ [entry]) rest

/-- What merged scenes send on hearing from one of them; the others are those that did not send. -/
def mergedResponse (scenes others : List Scene) : Batch → List Batch
  | .added entries => [.added (entries.map fun entry => (merge scenes).typed entry.1)]
  | .removed paths =>
      [.removed paths, .added (onceEach [] (paths.flatMap (remaining (merge scenes) others)))]
  | batch => [batch]

def announcedByJoining (scenes : List Scene) (joining : Scene) : List (Path × Token) :=
  (joining.under .root).map (merge scenes).typed

/-- The paths that merged scenes lose with one that is no longer among them: those that none of the
remaining has, without what lies below another such path. -/
def lostByLeaving (scenes : List Scene) (leaving : Scene) : List Path :=
  let isLost (path : Path) : Bool := !path.isRoot && !scenes.any (·.hasChild path)
  (leaving.underSkipping isLost .root).filter isLost

end LayeredScene.Scene
