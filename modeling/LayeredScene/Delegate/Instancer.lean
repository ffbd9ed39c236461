import LayeredScene.Delegate.Lazy

/-! # Instancers of delegates

The topology container of an instancer fetches the prototypes once; which instances show a prototype
is asked for whenever it is read. The categories of instances are fetched once by the vector that
lists them.
-/

namespace LayeredScene

def categoriesBlueprint (categories : List Token) : Blueprint :=
  .present [("includedCategoryNames", .constantOf (.array .token) categories)]

namespace ServedPrim

def prototypesOnce (prim : ServedPrim) (number : Nat) : Reads (List Path) :=
  Reads.remembered (.prototypes number) (prim.ask .prototypes (·.prototypes))

def instanceIndices (prim : ServedPrim) (prototypes : List Path) : Source :=
  .vector .passing (fun _ store => (prototypes.length, store)) fun position around store =>
    match prototypes[position]? with
    | some prototype =>
        (Blueprint.lazyOf (.array .int)
          (prim.ask .instanceIndices (·.instanceIndices prototype))).found around store
    | none => (none, store)

def instancerTopology (prim : ServedPrim) (number : Nat) : Container where
  mark := ⟨some (.whole number), []⟩
  names := pure ["prototypes", "instanceIndices", "isLegacyInstancer"]
  get name :=
    if name = "prototypes" then do
      (Blueprint.constantOf (.array .path) (← prim.prototypesOnce number)).found
    else if name = "instanceIndices" then do
      return some (prim.instanceIndices (← prim.prototypesOnce number))
    else if name = "isLegacyInstancer" then (Blueprint.truth true).found
    else pure none

def instanceCategoriesOnce (prim : ServedPrim) (number : Nat) : Reads (List (List Token)) :=
  Reads.remembered (.fetched .categories number)
    (prim.ask .instanceCategories (·.instanceCategories))

def categoriesAt (prim : ServedPrim) (number position : Nat) : Reads (Option Source) := do
  match (← prim.instanceCategoriesOnce number)[position]? with
  | some categories => (categoriesBlueprint categories).found
  | none => return none

def instanceCategories (prim : ServedPrim) (number : Nat) : Source :=
  .vector ⟨some (.whole number), []⟩
    (List.length <$> prim.instanceCategoriesOnce number)
    (prim.categoriesAt number)

def instanceCategoriesContainer (prim : ServedPrim) : Container :=
  .passing ["categoriesValues"] fun name =>
    if name = "categoriesValues" then do
      return some (prim.instanceCategories (← Reads.newNumber))
    else pure none

end ServedPrim

end LayeredScene
