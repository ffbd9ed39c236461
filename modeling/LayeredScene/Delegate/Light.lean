import LayeredScene.Delegate.Lazy

/-! # Lights of delegates

Light parameters are asked for when they are found. Which prims a light or light filter is linked to
is given by expressions among the parameters; each expression that is there becomes a collection.
-/

namespace LayeredScene.ServedPrim

def plainLightParameters : List Token := ["params", "shadowParams", "shadowCollection"]

def lightContainer (prim : ServedPrim) : Container :=
  .passing
    ["filters", "lightLink", "shadowLink", "lightFilterLink", "isLight", "materialSyncMode",
      "portals"]
    fun name =>
      if plainLightParameters.contains name then do
        (Blueprint.constant (← prim.value name)).found
      else do (Blueprint.ofValue (← prim.lightParameter name)).found

def collection (prim : ServedPrim) (parameter : Token) : Reads (Option Source) := do
  match ← prim.lightParameter parameter with
  | .single .string expression =>
      (Blueprint.present
        [("membershipExpression", .constantOf (.single .string) expression)]).found
  | _ => return none

def collectionsContainer (prim : ServedPrim) (parameters : List (Token × Token)) : Container :=
  .passing (parameters.map (·.1)) fun name =>
    match parameters.find? (·.1 = name) with
    | some (_, parameter) => prim.collection parameter
    | none => pure none

def lightCollections (prim : ServedPrim) : Container :=
  prim.collectionsContainer
    [("lightLink", "collection:lightLink:membershipExpression"),
      ("shadowLink", "collection:shadowLink:membershipExpression")]

def filterCollections (prim : ServedPrim) : Container :=
  prim.collectionsContainer [("filterLink", "collection:filterLink:membershipExpression")]

end LayeredScene.ServedPrim
