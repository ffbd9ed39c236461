import LayeredScene.Filter.TypePruning
import LayeredScene.Proofs.Source.Lockstep
import LayeredScene.Proofs.Source.Wrapping
import LayeredScene.Source.Retained

/-! # What a type filter shows of data

Data that answers alike in two states of a scene is shown alike by a type filter in both, but for
the places at and under a binding that leads to a prim hidden in only one of them. -/

namespace LayeredScene

variable {around other : Surroundings} {together : Store → Store → Prop}

/-! ## Data that answers alike -/

namespace TypePruning

def targetHeld : Option Source → Reads (Option Path)
  | some (.sampled content) => bindingTarget (.sampled content)
  | _ => pure none

theorem bindingTarget_toSource (binding : Container) :
    bindingTarget binding.toSource = binding.get "path" >>= targetHeld := by
  funext around store
  delta bindingTarget Container.toSource
  dsimp only [bind]
  generalize binding.get "path" around store = found
  rcases found with ⟨_ | source, after⟩
  · rfl
  · cases source <;> rfl

end TypePruning

namespace Source

def has (names : List Token) (source : Source) : Reads Bool :=
  Option.isSome <$> source.walk names

def hasBeyond (rest : List Token) : Option Source → Reads Bool
  | some found => found.has rest
  | none => pure false

theorem has_cons (name : Token) (rest : List Token) (source : Source) :
    source.has (name :: rest) = source.child name >>= hasBeyond rest := by
  funext around store
  simp only [has, walk, bind, Pure.pure, Functor.map]
  cases source.child name around store with
  | mk found after => cases found <;> rfl

def AlikeAlong (around other : Surroundings) (together : Store → Store → Prop) :
    List Token → Source → Source → Prop
  | [], source, twin =>
      Alike around other together (TypePruning.bindingTarget source)
        (TypePruning.bindingTarget twin)
  | name :: rest, source, twin =>
      Lockstep around other together (source.child name) (twin.child name)
        fun found twinFound store twinStore =>
          Option.Rel (AlikeAlong around other together rest) found twinFound ∧
            together store twinStore

/-- Two sources have the same members, and these the same members in turn, and wherever one holds a
path, the other holds the same. -/
def AnswersAlike (around other : Surroundings) (together : Store → Store → Prop)
    (source twin : Source) : Prop :=
  ∀ names, AlikeAlong around other together names source twin

namespace AnswersAlike

variable {source twin : Source}

theorem child (alike : source.AnswersAlike around other together twin) (name : Token) :
    Lockstep around other together (source.child name) (twin.child name)
      fun found twinFound store twinStore =>
        Option.Rel (AnswersAlike around other together) found twinFound ∧
          together store twinStore := by
  intro store twinStore stores
  refine ⟨?_, (alike [name] store twinStore stores).2⟩
  have along := fun rest => (alike (name :: rest) store twinStore stores).1
  generalize (source.child name around store).1 = found at along ⊢
  generalize (twin.child name other twinStore).1 = twinFound at along ⊢
  cases along [] with
  | none => exact .none
  | some _ =>
      apply Option.Rel.some
      intro rest
      cases along rest with
      | some related => exact related

theorem walk (alike : source.AnswersAlike around other together twin) (names : List Token) :
    Lockstep around other together (source.walk names) (twin.walk names)
      fun found twinFound store twinStore =>
        Option.Rel (AnswersAlike around other together) found twinFound ∧
          together store twinStore := by
  induction names generalizing source twin with
  | nil => exact .pure fun store twinStore stores => ⟨.some alike, stores⟩
  | cons name rest induction =>
      refine (alike.child name).bind fun found twinFound store twinStore given => ?_
      rcases given with ⟨related | _, stores⟩
      · exact induction related store twinStore stores
      · exact ⟨.none, stores⟩

theorem has (alike : source.AnswersAlike around other together twin) (names : List Token) :
    Alike around other together (source.has names) (twin.has names) := by
  refine (alike.walk names).map fun found twinFound store twinStore given => ?_
  rcases given with ⟨_ | _, stores⟩ <;> exact ⟨rfl, stores⟩

end AnswersAlike

theorem answersAlike_constantOf (identity : Identity) (type : ValueType) (content : type.Content) :
    (Source.sampled (.constantOf identity type content)).AnswersAlike around other together
      (Source.sampled (.constantOf identity type content)) := by
  intro names
  cases names with
  | nil => exact (Alike.pure content).map fun content => (type.wrap content).path?
  | cons name rest => exact .pure fun store twinStore stores => ⟨.none, stores⟩

theorem answersAlike_retained {identity : Identity} {members : List (Token × Option Source)}
    (alike : ∀ member ∈ members, ∀ source, member.2 = some source →
      source.AnswersAlike around other together source) :
    (Container.retained identity members).toSource.AnswersAlike around other together
      (Container.retained identity members).toSource := by
  have found : ∀ name source, memberNamed members name = some source →
      source.AnswersAlike around other together source := by
    intro name source isNamed
    rcases Option.bind_eq_some_iff.mp isNamed with ⟨member, isMember, isSource⟩
    exact alike member (List.mem_of_find?_eq_some isMember) source isSource
  intro names
  cases names with
  | nil =>
      show Alike around other together (TypePruning.bindingTarget _) (TypePruning.bindingTarget _)
      rw [TypePruning.bindingTarget_toSource]
      show Alike around other together (TypePruning.targetHeld (memberNamed members "path"))
        (TypePruning.targetHeld (memberNamed members "path"))
      cases isNamed : memberNamed members "path" with
      | none => exact .pure none
      | some source => cases source with
        | sampled content => exact found "path" _ isNamed []
        | _ => exact .pure none
  | cons name rest =>
      apply Lockstep.pure
      intro store twinStore stores
      refine ⟨?_, stores⟩
      cases isNamed : memberNamed members name with
      | none => exact .none
      | some source => exact .some (found name source isNamed rest)

end Source

/-! ## What is shown of it -/

namespace TypePruning

variable {member : Token} {filter : Nat} {keeps : List Nat} {data : Container}

/-- Where a binding of some data leads. -/
def boundTo (member name : Token) (data : Container) : Reads (Option Path) := do
  match ← data.find ⟨[member, name]⟩ with
  | some binding => bindingTarget binding
  | none => return none

def hasThrough (filter : Nat) (rest : List Token) : Option Source → Reads Bool
  | some binding => do
      match ← bindingTarget binding with
      | some target => fun around store =>
          if around.hides filter target then (false, store) else binding.has rest around store
      | none => binding.has rest
  | none => pure false

theorem visibleData_get_other {name : Token} (differs : name ≠ member) :
    (visibleData member filter keeps data).get name = data.get name := by
  funext around store
  simp only [visibleData, bind, Pure.pure]
  cases data.get name around store with
  | mk found after => cases found <;> simp [differs]

theorem visibleData_has_other {name : Token} (differs : name ≠ member) (rest : List Token) :
    (visibleData member filter keeps data).toSource.has (name :: rest) =
      data.toSource.has (name :: rest) := by
  simp only [Source.has_cons, Source.child, Source.container?_toSource,
    visibleData_get_other differs]

def shownBindings (filter : Nat) (keeps : List Nat) (source : Source) : Source :=
  match source.container? with
  | some bindings => (visibleBindings filter keeps bindings).toSource
  | none => source

def shownFound (filter : Nat) (keeps : List Nat) : Option Source → Reads (Option Source)
  | some source => pure (some (shownBindings filter keeps source))
  | none => pure none

theorem visibleData_get_member :
    (visibleData member filter keeps data).get member =
      data.get member >>= shownFound filter keeps := by
  funext around store
  simp only [visibleData, bind, Pure.pure]
  rcases data.get member around store with ⟨_ | source, after⟩
  · rfl
  · cases isContainer : source.container? <;> simp [shownFound, shownBindings, isContainer] <;> rfl

theorem visibleData_get_behind :
    (visibleData member filter keeps data).get member =
      Option.map (Source.behind (visibleBindings filter keeps)) <$> data.get member := by
  rw [visibleData_get_member, map_eq_pure_bind]
  apply bind_congr
  intro found
  cases found <;> rfl

def walkThrough (filter : Nat) (rest : List Token) : Option Source → Reads (Option Source)
  | some binding => do
      match ← bindingTarget binding with
      | some target => fun around store =>
          if around.hides filter target then (none, store) else binding.walk rest around store
      | none => binding.walk rest
  | none => pure none

theorem visibleBindings_walk (bindings : Container) (name : Token) (rest : List Token) :
    (visibleBindings filter keeps bindings).toSource.walk (name :: rest) =
      bindings.get name >>= walkThrough filter rest := by
  rw [Source.walk_toSource_cons, visibleBindings, bind_assoc]
  apply bind_congr
  intro found
  cases found with
  | none => rfl
  | some binding =>
      funext around store
      simp only [walkThrough, bind]
      rcases bindingTarget binding around store with ⟨_ | target, last⟩
      · rfl
      · dsimp only
        cases around.hides filter target <;> rfl

theorem visibleData_find_binding (name : Token) (rest : List Token) :
    (visibleData member filter keeps data).find ⟨member :: name :: rest⟩ =
      data.find ⟨[member, name]⟩ >>= walkThrough filter rest := by
  simp only [Container.find, Source.walk_toSource_cons, bind_assoc]
  refine Source.get_bind_eq_bind visibleData_get_behind rfl (fun source notContainer => ?_) ?_
  · rw [Source.walkBeyond, Source.walk_of_not_container notContainer, Source.walkBeyond,
      Source.walk_of_not_container notContainer]
    rfl
  · intro bindings
    rw [Source.walkBeyond, Source.walkBeyond, visibleBindings_walk, Source.walk_toSource_single]

theorem visibleData_has_member :
    (visibleData member filter keeps data).toSource.has [member] = data.toSource.has [member] := by
  rw [Source.has_cons, Source.has_cons]
  simp only [Source.child, Source.container?_toSource]
  rw [visibleData_get_member, bind_assoc]
  apply bind_congr
  intro found
  cases found <;> rfl

theorem hasThrough_eq (rest : List Token) (found : Option Source) :
    hasThrough filter rest found = Option.isSome <$> walkThrough filter rest found := by
  cases found with
  | none => rfl
  | some binding =>
      rw [walkThrough, map_bind]
      apply bind_congr
      intro target
      cases target with
      | none => rfl
      | some target =>
          funext around store
          let shown := if around.hides filter target then ((none : Option Source), store)
            else binding.walk rest around store
          show _ = (shown.1.isSome, shown.2)
          dsimp only [shown]
          cases around.hides filter target <;> rfl

theorem visibleData_has_binding (name : Token) (rest : List Token) :
    (visibleData member filter keeps data).toSource.has (member :: name :: rest) =
      data.find ⟨[member, name]⟩ >>= hasThrough filter rest := by
  have leads : (visibleData member filter keeps data).toSource.walk (member :: name :: rest) = _ :=
    visibleData_find_binding name rest
  rw [Source.has, leads, map_bind]
  exact bind_congr fun found => (hasThrough_eq rest found).symm

variable {twin : Container} {store twinStore : Store} {names : List Token}

theorem hasThrough_changes {binding twinBinding : Source} {rest : List Token}
    (alike : binding.AnswersAlike around other together twinBinding)
    (stores : together store twinStore)
    (changes : (hasThrough filter rest (some binding) around store).1 ≠
      (hasThrough filter rest (some twinBinding) other twinStore).1) :
    ∃ target, (bindingTarget binding around store).1 = some target ∧
      around.hides filter target ≠ other.hides filter target := by
  have targets := alike [] store twinStore stores
  simp only [hasThrough, bind] at changes
  rcases leads : bindingTarget binding around store with ⟨target, after⟩
  rcases twinLeads : bindingTarget twinBinding other twinStore with ⟨twinTarget, twinAfter⟩
  simp only [leads, twinLeads] at targets changes
  rcases targets with ⟨rfl, afterStores⟩
  have same := (alike.has rest _ _ afterStores).1
  cases target with
  | none => exact absurd same changes
  | some target =>
      refine ⟨target, rfl, fun hidden => changes ?_⟩
      simp only [hidden]
      cases other.hides filter target with
      | true => rfl
      | false => exact same

theorem visibleData_changes
    (alike : data.toSource.AnswersAlike around other together twin.toSource)
    (stores : together store twinStore)
    (changes : ((visibleData member filter keeps data).toSource.has names around store).1 ≠
      ((visibleData member filter keeps twin).toSource.has names other twinStore).1) :
    ∃ name rest target, names = member :: name :: rest ∧
      (boundTo member name data around store).1 = some target ∧
      around.hides filter target ≠ other.hides filter target := by
  rcases names with _ | ⟨name, rest⟩
  · exact absurd rfl changes
  by_cases isMember : name = member
  · subst isMember
    rcases rest with _ | ⟨binding, rest⟩
    · rw [visibleData_has_member, visibleData_has_member] at changes
      exact absurd (alike.has _ store twinStore stores).1 changes
    -- only below a binding does the type of another prim count
    · refine ⟨binding, rest, ?_⟩
      rw [visibleData_has_binding, visibleData_has_binding] at changes
      have found := alike.walk [name, binding] store twinStore stores
      simp only [boundTo, bind, Container.find] at changes ⊢
      rcases leads : data.toSource.walk [name, binding] around store with ⟨result, after⟩
      rcases twinLeads : twin.toSource.walk [name, binding] other twinStore with
        ⟨twinResult, twinAfter⟩
      simp only [leads, twinLeads] at found changes ⊢
      rcases found with ⟨related | _, afterStores⟩
      · rcases hasThrough_changes related afterStores changes with ⟨target, bound, differs⟩
        exact ⟨target, trivial, bound, differs⟩
      · exact absurd rfl changes
  · rw [visibleData_has_other isMember, visibleData_has_other isMember] at changes
    exact absurd (alike.has _ store twinStore stores).1 changes

end TypePruning

/-! ## Prims -/

def Prim.has (prim : Prim) (place : Locator) : Reads Bool :=
  match prim.data with
  | some data => data.toSource.has place.tokens
  | none => pure false

namespace TypePruning

variable {pruning : TypePruning} {filter : Nat} {keeps : List Nat} {prim : Prim} {path : Path}
variable {place : Locator} {store twinStore : Store}

theorem prunedPrim_changes
    (alike : ∀ data, prim.data = some data →
      data.toSource.AnswersAlike around other together data.toSource)
    (stores : together store twinStore)
    (changes : ((pruning.prunedPrim filter keeps path prim).has place around store).1 ≠
      ((pruning.prunedPrim filter keeps path prim).has place other twinStore).1) :
    ∃ data name rest target, prim.data = some data ∧
      place.tokens = pruning.binding :: name :: rest ∧
      (boundTo pruning.binding name data around store).1 = some target ∧
      around.hides filter target ≠ other.hides filter target := by
  rw [prunedPrim] at changes
  split at changes
  · exact absurd rfl changes
  split at changes
  · cases isData : prim.data with
    | none =>
        rw [Prim.has, isData] at changes
        exact absurd rfl changes
    | some data =>
        rw [Prim.has, isData] at changes
        exact absurd ((alike data isData).has _ store twinStore stores).1 changes
  · cases isData : prim.data with
    | none =>
        rw [isData] at changes
        exact absurd rfl changes
    | some data =>
        rw [isData] at changes
        rcases visibleData_changes (alike data isData) stores changes with
          ⟨name, rest, target, isPlace, leads, differs⟩
        exact ⟨data, name, rest, target, rfl, isPlace, leads, differs⟩

end TypePruning

end LayeredScene
