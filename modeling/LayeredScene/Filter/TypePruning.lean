import LayeredScene.Scene.Prim

/-! # Pruning by type

A type filter blanks prims of some types. What lies below a blanked prim stays. Where a member for
bindings is configured, the filter also hides the bindings that lead to a blanked prim, so nobody is
sent to a prim that is not shown.
-/

namespace LayeredScene

structure TypePruning where
  types : List Token
  /-- the member whose bindings are hidden with their prims; empty to hide none -/
  binding : Token
  /-- leave alone what is not at a prim path -/
  primPathsOnly : Bool
deriving DecidableEq, Inhabited

namespace TypePruning

def prunesType (pruning : TypePruning) (type : Token) : Bool := pruning.types.contains type

def prunesPath (pruning : TypePruning) (path : Path) : Bool := !pruning.primPathsOnly || path.isPrim

def prunes (pruning : TypePruning) (path : Path) (type : Token) : Bool :=
  pruning.prunesType type && pruning.prunesPath path

def prunesTarget (pruning : TypePruning) (input : Scene) (target : Path) : Bool :=
  !target.isEmpty && pruning.prunesPath target && pruning.prunesType (input.prim target).type

/-- What a binding leads to: the path it holds, or the path that its member `path` holds. -/
def bindingTarget : Source → Reads (Option Path)
  | .sampled content => do return (← content.value 0).path?
  | .container _ _ get => fun around store =>
      match get "path" around store with
      | (some (.sampled content), after) =>
          let result := content.value 0 around after
          (result.1.path?, result.2)
      | (_, after) => (none, after)
  | _ => pure none

def visibleBindings (filter : Nat) (keeps : List Nat) (bindings : Container) : Container where
  mark := ⟨none, keeps ++ bindings.mark.keeps⟩
  names := bindings.names
  get name := do
    match ← bindings.get name with
    | none => return none
    | some binding => fun around store =>
        match bindingTarget binding around store with
        | (some target, after) =>
            (if around.hides filter target then none else some binding, after)
        | (none, after) => (some binding, after)

def visibleData (member : Token) (filter : Nat) (keeps : List Nat) (data : Container) :
    Container where
  mark := ⟨none, keeps ++ data.mark.keeps⟩
  names := data.names
  get name := do
    match ← data.get name with
    | none => return none
    | some source =>
        if name = member then
          match source.container? with
          | some bindings => return some (visibleBindings filter keeps bindings).toSource
          | none => return some source
        else return some source

def prunedPrim (pruning : TypePruning) (filter : Nat) (keeps : List Nat) (path : Path)
    (prim : Prim) : Prim :=
  if pruning.prunes path prim.type then .blank
  else if pruning.binding.isEmpty then prim
  else { prim with data := prim.data.map (visibleData pruning.binding filter keeps) }

def scene (pruning : TypePruning) (filter : Nat) (keeps : List Nat) (input : Scene) : Scene :=
  { input with prim := fun path => pruning.prunedPrim filter keeps path (input.prim path) }

def announcedType (pruning : TypePruning) (path : Path) (type : Token) : Token :=
  if pruning.prunes path type then "" else type

def ofArguments : Option Container → Reads TypePruning
  | none => pure default
  | some arguments => do
      let types ← arguments.findSampled ⟨["primTypes"]⟩
      let types ← match types with
        | some sampled => sampled.read (.array .token) 0
        | none => pure []
      let binding ← arguments.findSampled ⟨["bindingToken"]⟩
      let binding ← match binding with
        | some sampled => sampled.read (.single .token) 0
        | none => pure ""
      let primPathsOnly ← arguments.findSampled ⟨["doNotPruneNonPrimPaths"]⟩
      let primPathsOnly ← match primPathsOnly with
        | some sampled => sampled.read (.single .bool) 0
        | none => pure false
      return ⟨types, binding, primPathsOnly⟩

end TypePruning

end LayeredScene
