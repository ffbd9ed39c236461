import LayeredScene.PrimType
import LayeredScene.Source.Retained

/-! # Declared dependencies

A prim can declare that part of its data depends on data elsewhere. Each dependency is a container
that names the prim depended on, the place in its data, and the place that is affected.
-/

namespace LayeredScene

def dependenciesName : Token := "__dependencies"

def frameRateDependencyName : Token := "prim_dep_globals_timeCodesPerSecond"

/-- A dependency on a place in a prim. -/
def dependency (prim : Path) (place affected : Locator) : Blueprint :=
  .present [("dependedOnPrimPath", .path prim),
    ("dependedOnDataSourceLocator", .constantOf (.single .locator) place),
    ("affectedDataSourceLocator", .constantOf (.single .locator) affected)]

/-- The dependencies of a prim that depends on the frame rate as a whole. All such prims share one
object. -/
def frameRateDependencies : Container :=
  .retained .frameRateDependency
    [(frameRateDependencyName,
      some (dependency .root (.sceneGlobal "timeCodesPerSecond") .whole
        (Identity.frameRateDependency.inner 0)))]

end LayeredScene
