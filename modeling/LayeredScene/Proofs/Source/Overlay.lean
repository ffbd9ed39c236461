import LayeredScene.Search.FirstMention
import LayeredScene.Source.Overlay

/-! # What overlaid containers have

An overlay has the names of all its containers in the order of first mention. Its member of a name
is the first that is present when the containers are asked for theirs one after the other, unless
that is a block. -/

namespace LayeredScene.Container

variable {inputs : List Container}

theorem unites_uniteNames : Unites uniteNames where
  nil _ := rfl
  cons _ _ _ := rfl

theorem namesOfAll_eq (seen : List Token) (inputs : List Container) :
    namesOfAll seen inputs =
      (fun lists => uniteNames seen lists.flatten) <$> Reads.each (·.names) inputs := by
  induction inputs generalizing seen with
  | nil => rfl
  | cons input inputs induction =>
      funext around store
      let first := input.names around store
      let others := Reads.each (·.names) inputs around first.2
      calc
        namesOfAll seen (input :: inputs) around store
            = namesOfAll (uniteNames seen first.1) inputs around first.2 := rfl
        _ = (uniteNames (uniteNames seen first.1) others.1.flatten, others.2) := by
            rw [induction]
            rfl
        _ = (uniteNames seen (first.1 :: others.1).flatten, others.2) := by
            rw [unites_uniteNames.append, List.flatten_cons]

theorem strongest_eq (name : Token) (inputs : List Container) (around : Surroundings)
    (store : Store) :
    (strongest name inputs around store).1 =
      ((Reads.each (·.get name) inputs around store).1.findSome? id).filter (!·.isBlock) := by
  induction inputs generalizing store with
  | nil => rfl
  | cons input inputs induction =>
      have asked : (Reads.each (·.get name) (input :: inputs) around store).1 =
          (input.get name around store).1 ::
            (Reads.each (·.get name) inputs around (input.get name around store).2).1 := rfl
      rw [asked, strongest]
      cases found : (input.get name around store).1 with
      | none =>
          simp only [bind, found]
          exact induction _
      | some source =>
          simp only [bind, found]
          cases source <;> rfl

/-- A container has what some containers have, the strongest first: the names of all of them, each
once, and as the member of a name the first that is present, unless it is a block. -/
structure IsOverlay (container : Container) (inputs : List Container) : Prop where
  names : container.names = (·.flatten.eraseDups) <$> Reads.each (·.names) inputs
  get : ∀ name around store, (container.get name around store).1 =
    ((Reads.each (·.get name) inputs around store).1.findSome? id).filter (!·.isBlock)

theorem isOverlay_overlay (identity : Option Identity) (inputs : List Container) :
    (overlay identity inputs).IsOverlay inputs where
  names := by
    rw [overlay, namesOfAll_eq]
    simp only [unites_uniteNames.eq_eraseDups]
  get name around store := strongest_eq name inputs around store

theorem overlayAll_isOverlay (several : 1 < inputs.length) :
    ∃ container, overlayAll inputs = some container ∧ container.IsOverlay inputs := by
  rcases inputs with _ | ⟨first, _ | ⟨second, rest⟩⟩
  · contradiction
  · contradiction
  · exact ⟨overlay none (first :: second :: rest), rfl, isOverlay_overlay none _⟩

end LayeredScene.Container
