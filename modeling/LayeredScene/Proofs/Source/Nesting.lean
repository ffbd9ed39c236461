import LayeredScene.Proofs.Source.Overlay

/-! # Overlays within overlays

An overlay that is the weakest of some overlaid containers may as well be replaced by the containers
in it. One that is the strongest has the same names as these, but not always the same members. A
block ends the search inside of it and reads as absence from outside, so that the search goes on
among the weaker containers: a member is found that the block would have hidden from them.
-/

namespace LayeredScene.Container

variable {name : Token} {around : Surroundings} {store : Store}

/-! ## Names -/

theorem namesOfAll_append (seen : List Token) (strong weak : List Container) :
    namesOfAll seen (strong ++ weak) = namesOfAll seen strong >>= (namesOfAll · weak) := by
  induction strong generalizing seen with
  | nil => rfl
  | cons input strong induction =>
      rw [List.cons_append, namesOfAll, namesOfAll, bind_assoc]
      exact bind_congr fun names => induction (uniteNames seen names)

theorem uniteNames_namesOfAll (seen apart : List Token) (inputs : List Container) :
    uniteNames seen <$> namesOfAll apart inputs = namesOfAll (uniteNames seen apart) inputs := by
  induction inputs generalizing apart with
  | nil => rfl
  | cons input inputs induction =>
      rw [namesOfAll, namesOfAll, map_bind]
      apply bind_congr
      intro names
      rw [induction, unites_uniteNames.assoc]

theorem namesOfAll_overlay (seen : List Token) (identity : Option Identity)
    (inputs : List Container) :
    namesOfAll seen [overlay identity inputs] = namesOfAll seen inputs := by
  calc
    namesOfAll seen [overlay identity inputs]
        = uniteNames seen <$> namesOfAll [] inputs := rfl
    _ = namesOfAll seen inputs := by
        rw [uniteNames_namesOfAll, unites_uniteNames.nil]

/-! ## Members -/

/-- The first present member of a name, which may be a block. -/
def firstPresent (name : Token) : List Container → Reads (Option Source)
  | [] => pure none
  | input :: rest => do
      let found ← input.get name
      if found.isSome then return found else firstPresent name rest

theorem firstPresent_append (name : Token) (strong weak : List Container) :
    firstPresent name (strong ++ weak) = firstPresent name strong >>= fun found =>
      if found.isSome then pure found else firstPresent name weak := by
  induction strong with
  | nil => rfl
  | cons input strong induction =>
      rw [List.cons_append, firstPresent, firstPresent, bind_assoc]
      apply bind_congr
      intro found
      cases found with
      | none => exact induction
      | some source => rfl

theorem strongest_eq_firstPresent (name : Token) (inputs : List Container) :
    strongest name inputs = (·.filter (!·.isBlock)) <$> firstPresent name inputs := by
  induction inputs with
  | nil => rfl
  | cons input inputs induction =>
      rw [strongest, firstPresent, map_bind]
      apply bind_congr
      intro found
      cases found with
      | none => exact induction
      | some source => cases source <;> rfl

theorem strongest_append (name : Token) (strong weak : List Container) :
    strongest name (strong ++ weak) = firstPresent name strong >>= fun found =>
      if found.isSome then pure (found.filter (!·.isBlock)) else strongest name weak := by
  rw [strongest_eq_firstPresent, firstPresent_append, map_bind]
  apply bind_congr
  intro found
  cases found with
  | none => exact (strongest_eq_firstPresent name weak).symm
  | some source => rfl

theorem firstPresent_overlay (name : Token) (identity : Option Identity)
    (inputs : List Container) :
    firstPresent name [overlay identity inputs] = strongest name inputs := by
  have either : ∀ found : Option Source,
      (if found.isSome then pure found else pure none : Reads (Option Source)) = pure found := by
    intro found
    cases found <;> rfl
  calc
    firstPresent name [overlay identity inputs]
        = strongest name inputs >>= fun found =>
            if found.isSome then pure found else pure none := rfl
    _ = strongest name inputs >>= pure := bind_congr either
    _ = strongest name inputs := bind_pure _

theorem strongest_overlay (name : Token) (identity : Option Identity) (inputs : List Container) :
    strongest name [overlay identity inputs] = strongest name inputs := by
  rw [strongest_eq_firstPresent, firstPresent_overlay, strongest_eq_firstPresent, Functor.map_map]
  congr 1
  funext found
  rw [Option.filter_filter]
  simp only [Bool.and_self]

theorem strongest_overlay_append (name : Token) (identity : Option Identity)
    (strong weak : List Container) :
    strongest name ([overlay identity strong] ++ weak) = firstPresent name strong >>= fun found =>
      if found.any (!·.isBlock) then pure found else strongest name weak := by
  rw [strongest_append, firstPresent_overlay, strongest_eq_firstPresent, bind_map_left]
  apply bind_congr
  intro found
  cases found with
  | none => rfl
  | some source => cases source <;> rfl

/-! ## Both -/

structure AnswersAs (container other : Container) : Prop where
  names : container.names = other.names
  get : ∀ name, container.get name = other.get name

theorem answersAs_overlay_weakest (outer inner flat : Option Identity)
    (strong weak : List Container) :
    (overlay outer (strong ++ [overlay inner weak])).AnswersAs (overlay flat (strong ++ weak)) where
  names := by
    show namesOfAll [] (strong ++ [overlay inner weak]) = namesOfAll [] (strong ++ weak)
    rw [namesOfAll_append, namesOfAll_append]
    exact bind_congr fun seen => namesOfAll_overlay seen inner weak
  get name := by
    show strongest name (strong ++ [overlay inner weak]) = strongest name (strong ++ weak)
    rw [strongest_append, strongest_append, strongest_overlay]

/-- What a container and another one answer when they are asked for a member, the first of the
strong containers that has it being known. If that is a block, the container goes on to the weak
ones from there, and the other one has nothing. If not, they answer alike. -/
structure Unhides (container other : Container) (strong : List Container) (weak : Container)
    (name : Token) (around : Surroundings) (store : Store) : Prop where
  blocked : (firstPresent name strong around store).1 = some .block →
    container.get name around store =
        weak.get name around (firstPresent name strong around store).2 ∧
      (other.get name around store).1 = none
  otherwise : (firstPresent name strong around store).1 ≠ some .block →
    container.get name around store = other.get name around store

theorem Unhides.differs_iff {container other weak : Container} {strong : List Container}
    (unhides : container.Unhides other strong weak name around store) :
    (container.get name around store).1 ≠ (other.get name around store).1 ↔
      (firstPresent name strong around store).1 = some .block ∧
        (weak.get name around (firstPresent name strong around store).2).1.isSome = true := by
  by_cases isBlock : (firstPresent name strong around store).1 = some .block
  · rcases unhides.blocked isBlock with ⟨goesOn, nothing⟩
    rw [goesOn, nothing, Option.isSome_iff_ne_none, and_iff_right isBlock]
  · rw [unhides.otherwise isBlock]
    exact iff_of_false (fun differs => differs rfl) fun both => isBlock both.1

theorem unhides_overlay_strongest (outer inner flat : Option Identity)
    (strong weak : List Container) (name : Token) (around : Surroundings) (store : Store) :
    (overlay outer ([overlay inner strong] ++ weak)).Unhides (overlay flat (strong ++ weak)) strong
      (overlay inner weak) name around store := by
  rcases reads : firstPresent name strong around store with ⟨found, after⟩
  have nested : (overlay outer ([overlay inner strong] ++ weak)).get name around store =
      (if found.any (!·.isBlock) then pure found else strongest name weak) around after := by
    show strongest name ([overlay inner strong] ++ weak) around store = _
    rw [strongest_overlay_append, Reads.bind_of_reads reads]
  have plain : (overlay flat (strong ++ weak)).get name around store =
      (if found.isSome then pure (found.filter (!·.isBlock)) else strongest name weak)
        around after := by
    show strongest name (strong ++ weak) around store = _
    rw [strongest_append, Reads.bind_of_reads reads]
  constructor
  · intro isBlock
    rw [reads] at isBlock ⊢
    subst isBlock
    rw [nested, plain]
    exact ⟨rfl, rfl⟩
  · intro isNotBlock
    rw [reads] at isNotBlock
    rw [nested, plain]
    cases found with
    | none => rfl
    | some source =>
        cases source with
        | block => exact absurd rfl isNotBlock
        | _ => rfl

/-- Overlays can be flattened, with one exception. Where the inner overlay is the weakest, nothing
changes at all. Where it is the strongest, the names stay the same, and so does a member unless the
first one that is present inside is a block and the weaker containers have one. Then the member is
theirs, and in the flat overlay there is none. -/
theorem overlay_nested (outer inner flat : Option Identity) (strong weak : List Container) :
    (overlay outer (strong ++ [overlay inner weak])).AnswersAs (overlay flat (strong ++ weak)) ∧
      (overlay outer ([overlay inner strong] ++ weak)).names =
        (overlay flat (strong ++ weak)).names ∧
      ∀ name around store,
        (overlay outer ([overlay inner strong] ++ weak)).Unhides (overlay flat (strong ++ weak))
            strong (overlay inner weak) name around store ∧
        (((overlay outer ([overlay inner strong] ++ weak)).get name around store).1 ≠
            ((overlay flat (strong ++ weak)).get name around store).1 ↔
          (firstPresent name strong around store).1 = some .block ∧
            ((overlay inner weak).get name around
              (firstPresent name strong around store).2).1.isSome = true) := by
  have sameNames : namesOfAll [] ([overlay inner strong] ++ weak) =
      namesOfAll [] (strong ++ weak) := by
    rw [namesOfAll_append, namesOfAll_append, namesOfAll_overlay]
  refine ⟨answersAs_overlay_weakest outer inner flat strong weak, sameNames, ?_⟩
  intro name around store
  have unhides := unhides_overlay_strongest outer inner flat strong weak name around store
  exact ⟨unhides, unhides.differs_iff⟩

example :
    let blocking := retained (.whole 0) [("a", some .block)]
    let weaker := retained (.whole 1) [("a", some (retained (.whole 2) []).toSource)]
    ((overlay none [overlay none [blocking], weaker]).get "a").yieldsAlone.isSome = true ∧
      ((overlay none [blocking, weaker]).get "a").yieldsAlone.isSome = false := by
  decide

end LayeredScene.Container
