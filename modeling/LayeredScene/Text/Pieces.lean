/-! # Cutting text at a separator

Paths and locators are names joined by a separator character. `pieces` cuts at every separator
and `joined` puts the pieces back; `cutAtLast` cuts once, at the last separator.
-/

namespace LayeredScene.Text

/-- The stretches of `text` between separators, ends included: a text without a separator is one
piece, and so is the empty text. -/
def pieces (separator : Char) : List Char → List (List Char)
  | [] => [[]]
  | c :: rest =>
      if c = separator then [] :: pieces separator rest
      else
        match pieces separator rest with
        | [] => [[c]]
        | piece :: more => (c :: piece) :: more

def joined (separator : Char) : List (List Char) → List Char
  | [] => []
  | [piece] => piece
  | piece :: more => piece ++ separator :: joined separator more

def cutAtLast (separator : Char) : List Char → Option (List Char × List Char)
  | [] => none
  | c :: rest =>
      match cutAtLast separator rest with
      | some (before, after) => some (c :: before, after)
      | none => if c = separator then some ([], rest) else none

theorem pieces_ne_nil (separator : Char) (text : List Char) : pieces separator text ≠ [] := by
  cases text with
  | nil => simp [pieces]
  | cons c rest =>
      simp only [pieces]
      split
      · simp
      · split <;> simp

theorem joined_pieces (separator : Char) (text : List Char) :
    joined separator (pieces separator text) = text := by
  induction text with
  | nil => rfl
  | cons c rest inductionHypothesis =>
      simp only [pieces]
      split
      · rename_i isSeparator
        subst isSeparator
        cases cut : pieces c rest with
        | nil => exact absurd cut (pieces_ne_nil c rest)
        | cons piece more => simpa [joined, cut] using inductionHypothesis
      · cases cut : pieces separator rest with
        | nil => exact absurd cut (pieces_ne_nil separator rest)
        | cons piece more =>
            cases more with
            | nil => simpa [joined, cut] using inductionHypothesis
            | cons next others => simpa [joined, cut] using inductionHypothesis

example : pieces '.' ['a', '.', '.', 'b'] = [['a'], [], ['b']] := by decide

theorem separator_notMem_of_mem_pieces {separator : Char} {text piece : List Char}
    (member : piece ∈ pieces separator text) : separator ∉ piece := by
  induction text generalizing piece with
  | nil => simp_all [pieces]
  | cons c rest inductionHypothesis =>
      simp only [pieces] at member
      split at member
      · cases member with
        | head => simp
        | tail _ later => exact inductionHypothesis later
      · rename_i different
        cases cut : pieces separator rest with
        | nil => exact absurd cut (pieces_ne_nil separator rest)
        | cons first more =>
            rw [cut] at member inductionHypothesis
            cases member with
            | head =>
                have notInFirst := inductionHypothesis (List.mem_cons_self ..)
                simp only [List.mem_cons, not_or]
                exact ⟨fun equal => different equal.symm, notInFirst⟩
            | tail _ later => exact inductionHypothesis (List.mem_cons_of_mem _ later)

variable {separator : Char} {text piece before after : List Char}

theorem pieces_of_notMem (absent : separator ∉ text) : pieces separator text = [text] := by
  induction text with
  | nil => rfl
  | cons c rest induction =>
      have different : c ≠ separator := fun same => absent (same ▸ List.mem_cons_self)
      rw [pieces, if_neg different, induction fun later => absent (List.mem_cons_of_mem c later)]

theorem pieces_append_cons (absent : separator ∉ piece) (rest : List Char) :
    pieces separator (piece ++ separator :: rest) = piece :: pieces separator rest := by
  induction piece with
  | nil => rw [List.nil_append, pieces, if_pos rfl]
  | cons c piece induction =>
      have different : c ≠ separator := fun same => absent (same ▸ List.mem_cons_self)
      rw [List.cons_append, pieces, if_neg different,
        induction fun later => absent (List.mem_cons_of_mem c later)]

theorem pieces_joined {stretches : List (List Char)} (some : stretches ≠ [])
    (whole : ∀ piece ∈ stretches, separator ∉ piece) :
    pieces separator (joined separator stretches) = stretches := by
  induction stretches with
  | nil => exact absurd rfl some
  | cons piece more induction =>
      have first := whole piece List.mem_cons_self
      cases more with
      | nil => exact pieces_of_notMem first
      | cons next others =>
          rw [joined, pieces_append_cons first, induction (List.cons_ne_nil next others)
            fun other member => whole other (List.mem_cons_of_mem piece member)]
          exact List.cons_ne_nil next others

theorem cutAtLast_of_notMem (absent : separator ∉ text) : cutAtLast separator text = none := by
  induction text with
  | nil => rfl
  | cons c rest induction =>
      have different : c ≠ separator := fun same => absent (same ▸ List.mem_cons_self)
      rw [cutAtLast, induction fun later => absent (List.mem_cons_of_mem c later)]
      exact if_neg different

theorem cutAtLast_append_cons (absent : separator ∉ after) (before : List Char) :
    cutAtLast separator (before ++ separator :: after) = some (before, after) := by
  induction before with
  | nil =>
      rw [List.nil_append, cutAtLast, cutAtLast_of_notMem absent]
      exact if_pos rfl
  | cons c before induction => rw [List.cons_append, cutAtLast, induction]

example : cutAtLast '.' ['a', '.', 'b', '.', 'c'] = some (['a', '.', 'b'], ['c']) := by decide

theorem notMem_of_cutAtLast (uncut : cutAtLast separator text = none) : separator ∉ text := by
  induction text with
  | nil => simp
  | cons c rest induction =>
      rw [cutAtLast] at uncut
      split at uncut
      · cases uncut
      · rename_i restUncut
        split at uncut
        · cases uncut
        · rename_i different
          simp [induction restUncut, Ne.symm different]

theorem eq_of_cutAtLast (cut : cutAtLast separator text = some (before, after)) :
    text = before ++ separator :: after ∧ separator ∉ after := by
  induction text generalizing before with
  | nil => cases cut
  | cons c rest induction =>
      rw [cutAtLast] at cut
      split at cut
      · rename_i restCut
        cases cut
        have later := induction restCut
        exact ⟨congrArg (c :: ·) later.1, later.2⟩
      · rename_i restUncut
        split at cut
        · rename_i isSeparator
          cases cut
          exact ⟨by rw [isSeparator, List.nil_append], notMem_of_cutAtLast restUncut⟩
        · cases cut

end LayeredScene.Text
