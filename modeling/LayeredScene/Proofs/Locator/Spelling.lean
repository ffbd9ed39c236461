import LayeredScene.Locator.Text
import Mathlib.Tactic.Common

/-! # How locators are spelled

The text of a locator is split at every dot. No text at all spells the locator of the whole, which
has no names. Any other text spells a locator just if there is something before the first dot, after
the last one and between any two that follow one another. What is read is written as the text that
it was read from, and what is written is read back just if its names can stand between dots.
-/

namespace LayeredScene

namespace Text

theorem joined_eq_intercalate (separator : Char) (stretches : List (List Char)) :
    joined separator stretches = [separator].intercalate stretches := by
  induction stretches with
  | nil => rfl
  | cons piece more induction =>
      cases more with
      | nil => simp [joined]
      | cons next others => simp [joined, induction]

theorem pieces_eq_splitOn (separator : Char) (text : List Char) :
    pieces separator text = text.splitOn separator := by
  have whole : ∀ piece ∈ pieces separator text, separator ∉ piece := fun _ =>
    separator_notMem_of_mem_pieces
  rw [← List.splitOn_intercalate separator whole (pieces_ne_nil separator text),
    ← joined_eq_intercalate, joined_pieces]

end Text

namespace Locator

structure IsName (name : Token) : Prop where
  notEmpty : name.toList ≠ []
  noDot : '.' ∉ name.toList

variable {text : String} {locator : Locator}

/-! ## Reading -/

theorem ofText_eq_some_iff {letters : List Char} {tokens : List Token} (notEmpty : letters ≠ []) :
    ofText letters = some tokens ↔
      [] ∉ letters.splitOn '.' ∧ tokens.map String.toList = letters.splitOn '.' := by
  have noEmptyPiece : (Text.pieces '.' letters).any List.isEmpty = true ↔
      [] ∈ letters.splitOn '.' := by
    simp [Text.pieces_eq_splitOn]
  rw [ofText, if_neg (by simpa using notEmpty)]
  dsimp only
  split
  · rename_i hasEmpty
    simp [noEmptyPiece.mp hasEmpty]
  · rename_i noEmpty
    rw [noEmptyPiece] at noEmpty
    rw [Option.some_inj, and_iff_right noEmpty, Text.pieces_eq_splitOn]
    constructor
    · intro same
      rw [← same, List.map_map]
      simp [Function.comp_def]
    · intro same
      rw [← same, List.map_map]
      simp [Function.comp_def]

theorem parse_eq_ok_iff_ofText :
    parse text = .ok locator ↔ ofText text.toList = some locator.tokens := by
  rw [parse]
  cases ofText text.toList with
  | none => simp
  | some tokens =>
      rcases locator with ⟨others⟩
      simp

theorem parse_empty : parse "" = .ok whole := rfl

theorem parse_eq_ok_iff (notEmpty : text ≠ "") :
    parse text = .ok locator ↔
      [] ∉ text.toList.splitOn '.' ∧
        locator.tokens.map String.toList = text.toList.splitOn '.' := by
  rw [parse_eq_ok_iff_ofText]
  exact ofText_eq_some_iff (by simpa using notEmpty)

theorem isName_of_mem_splitOn {name : Token} (noEmpty : [] ∉ text.toList.splitOn '.')
    (member : name.toList ∈ text.toList.splitOn '.') : IsName name where
  notEmpty isEmpty := noEmpty (isEmpty ▸ member)
  noDot := by
    rw [← Text.pieces_eq_splitOn] at member
    exact Text.separator_notMem_of_mem_pieces member

/-! ## Writing -/

theorem toList_toText (locator : Locator) :
    locator.toText.toList = ['.'].intercalate (locator.tokens.map String.toList) := by
  rw [toText, String.toList_intercalate]
  rfl

theorem splitOn_toText (notWhole : locator ≠ whole)
    (noDots : ∀ name ∈ locator.tokens, '.' ∉ name.toList) :
    locator.toText.toList.splitOn '.' = locator.tokens.map String.toList := by
  rw [toList_toText]
  apply List.splitOn_intercalate
  · simpa using noDots
  · rcases locator with ⟨tokens⟩
    simpa [whole] using notWhole

theorem toText_of_parse (read : parse text = .ok locator) : locator.toText = text := by
  by_cases isEmpty : text = ""
  · rw [isEmpty, parse_empty] at read
    cases read
    exact isEmpty.symm
  · have names := ((parse_eq_ok_iff isEmpty).mp read).2
    apply String.toList_injective
    rw [toList_toText, names, List.intercalate_splitOn]

theorem areNames_of_parse (read : parse text = .ok locator) :
    ∀ name ∈ locator.tokens, IsName name := by
  by_cases isEmpty : text = ""
  · rw [isEmpty, parse_empty] at read
    cases read
    simp [whole]
  · rcases (parse_eq_ok_iff isEmpty).mp read with ⟨noEmpty, names⟩
    intro name member
    apply isName_of_mem_splitOn noEmpty
    rw [← names]
    exact List.mem_map_of_mem member

theorem parse_toText (areNames : ∀ name ∈ locator.tokens, IsName name) :
    parse locator.toText = .ok locator := by
  by_cases isWhole : locator = whole
  · rw [isWhole]
    rfl
  · have splits := splitOn_toText isWhole fun name member => (areNames name member).noDot
    have noEmpty : [] ∉ locator.tokens.map String.toList := by
      intro member
      rcases List.mem_map.mp member with ⟨name, isToken, isEmpty⟩
      exact (areNames name isToken).notEmpty isEmpty
    -- no text at all would split into one empty piece
    have notEmpty : locator.toText ≠ "" := by
      intro isEmpty
      rw [← splits, isEmpty] at noEmpty
      exact noEmpty (List.mem_singleton_self [])
    rw [parse_eq_ok_iff notEmpty, splits]
    exact ⟨noEmpty, rfl⟩

/-- Reading accepts the empty text and every text that has something between any two dots that
follow one another, before the first and after the last. It reads what stands there, in order, and
writing gives the text back. A locator is read back from what it is written as just if none of its
names is empty or holds a dot. -/
theorem parse_splits_at_dots :
    (∀ text, (∃ locator, parse text = .ok locator) ↔
      text = "" ∨ ∀ piece ∈ text.toList.splitOn '.', piece ≠ []) ∧
    (∀ text locator, parse text = .ok locator →
      locator.tokens.map String.toList = (if text = "" then [] else text.toList.splitOn '.') ∧
        locator.toText = text) ∧
    ∀ locator : Locator, parse locator.toText = .ok locator ↔
      ∀ name ∈ locator.tokens, IsName name := by
  refine ⟨?accepts, ?reads, ?returns⟩
  case accepts =>
    intro text
    by_cases isEmpty : text = ""
    · rw [isEmpty]
      exact iff_of_true ⟨whole, parse_empty⟩ (.inl rfl)
    · rw [or_iff_right isEmpty]
      constructor
      · intro given
        rcases given with ⟨locator, read⟩
        intro piece member isNothing
        exact ((parse_eq_ok_iff isEmpty).mp read).1 (isNothing ▸ member)
      · intro pieces
        refine ⟨⟨(text.toList.splitOn '.').map String.ofList⟩, (parse_eq_ok_iff isEmpty).mpr ?_⟩
        exact ⟨fun member => pieces [] member rfl, by simp [Function.comp_def]⟩
  case reads =>
    intro text locator read
    refine ⟨?_, toText_of_parse read⟩
    split
    · rename_i isEmpty
      rw [isEmpty, parse_empty] at read
      cases read
      rfl
    · rename_i notEmpty
      exact ((parse_eq_ok_iff notEmpty).mp read).2
  case returns => exact fun locator => ⟨areNames_of_parse, parse_toText⟩

example : parse "a..b" = .error (.locator "a..b") := by decide +kernel

end Locator

end LayeredScene
