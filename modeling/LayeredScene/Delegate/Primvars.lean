import LayeredScene.Delegate.Samples

/-! # Primvars of delegates

A delegate describes the primvars of a prim interpolation by interpolation. Descriptions of one name
are one primvar: it keeps the place where the name came first and is what was said about it last.
-/

namespace LayeredScene

/-- Put an entry under a name: in the place of the one that is there, else at the end. -/
def putByName {α : Type} (name : Token) (entry : α) : List (Token × α) → List (Token × α)
  | [] => [(name, entry)]
  | (first, present) :: rest =>
      if first = name then (first, entry) :: rest else (first, present) :: putByName name entry rest

def putAllByName {α : Type} (nameOf : α → Token) (entries : List α) : List (Token × α) :=
  entries.foldl (fun placed entry => putByName (nameOf entry) entry placed) []

def entryNamed? {α : Type} (entries : List (Token × α)) (name : Token) : Option α :=
  (entries.find? (·.1 = name)).map (·.2)

namespace ServedPrim

def describePrimvars (prim : ServedPrim) : Reads (List PrimvarDescriptor) := do
  let described ← Reads.each
    (fun interpolation => prim.ask .primvars (·.primvars interpolation)) Interpolation.all
  return (putAllByName PrimvarDescriptor.name described.flatten).map (·.2)

def primvar (prim : ServedPrim) (descriptor : PrimvarDescriptor) : Reads (Option Source) := do
  let number ← Reads.newNumber
  let value : List (Token × Blueprint) :=
    if descriptor.indexed then
      [("indexedPrimvarValue", prim.indexedPrimvarValue descriptor.name number),
        ("indices", prim.primvarIndices descriptor.name number)]
    else [("primvarValue", prim.primvarValue descriptor.name number)]
  (Blueprint.present (value ++
    [("interpolation", .token descriptor.interpolation.name),
      ("role", .token descriptor.role)])).found

def primvarsContainer (prim : ServedPrim) (described : Numbered (List PrimvarDescriptor)) :
    Container where
  mark := ⟨some (.whole described.number), []⟩
  names := pure (described.content.map (·.name))
  get name :=
    match described.content.find? (·.name = name) with
    | some descriptor => prim.primvar descriptor
    | none => pure none

def describeComputedPrimvars (prim : ServedPrim) : Reads (List ComputedPrimvarDescriptor) := do
  let described ← Reads.each
    (fun interpolation => prim.ask .computedPrimvars (·.computedPrimvars interpolation))
    Interpolation.all
  return (putAllByName ComputedPrimvarDescriptor.name described.flatten).map (·.2)

end ServedPrim

def ComputedPrimvarDescriptor.blueprint (descriptor : ComputedPrimvarDescriptor) : Blueprint :=
  .present [("interpolation", .token descriptor.interpolation.name),
    ("role", .token descriptor.role),
    ("sourceComputation", .path descriptor.computation),
    ("sourceComputationOutputName", .token descriptor.output),
    ("valueType", .token descriptor.valueType)]

def computedPrimvarsContainer (described : Numbered (List ComputedPrimvarDescriptor)) :
    Container where
  mark := ⟨some (.whole described.number), []⟩
  names := pure (described.content.map (·.name))
  get name :=
    match described.content.find? (·.name = name) with
    | some descriptor => descriptor.blueprint.found
    | none => pure none

end LayeredScene
