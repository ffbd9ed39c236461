import LayeredScene.Path.Text
import Mathlib.Tactic.Common

/-! # How paths are spelled

The grammar of path text stands here beside the reader and the writer: no text at all, the slash of
the root, or names after a slash each and a property after a dot. Reading accepts just the texts of
the grammar, and writing gives back what was read.
-/

namespace LayeredScene.Path

variable {name : Token} {prims : List Token} {property : Option Token} {path : Path}
variable {piece body text : List Char}

structure IsName (name : Token) : Prop where
  notEmpty : name.toList ≠ []
  noSlash : '/' ∉ name.toList
  noDot : '.' ∉ name.toList

/-- Each name after a slash, and the property, if there is one, after a dot. -/
def spelling (prims : List Token) (property : Option Token) : List Char :=
  prims.flatMap ('/' :: ·.toList) ++ property.toList.flatMap ('.' :: ·.toList)

/-- The grammar of paths. -/
inductive Spells : List Char → Path → Prop
  | nothing : Spells [] .empty
  | root : Spells ['/'] .root
  | names {prims : List Token} {property : Option Token} (some : prims ≠ [])
      (areNames : ∀ name ∈ prims ++ property.toList, IsName name) :
      Spells (spelling prims property) (.absolute prims property)

/-! ## Names between slashes -/

theorem primOfPiece_toList (isName : IsName name) : primOfPiece name.toList = .ok name := by
  simp [primOfPiece, isName.notEmpty, isName.noDot]

theorem eq_of_primOfPiece (read : primOfPiece piece = .ok name) :
    piece = name.toList ∧ piece ≠ [] ∧ '.' ∉ piece := by
  rw [primOfPiece] at read
  split at read
  · cases read
  · rename_i notEmpty
    split at read
    · cases read
    · rename_i undotted
      cases read
      exact ⟨String.toList_ofList.symm, by simpa using notEmpty, by simpa using undotted⟩

theorem mapM_primOfPiece (areNames : ∀ name ∈ prims, IsName name) :
    (prims.map String.toList).mapM primOfPiece = .ok prims := by
  induction prims with
  | nil => rfl
  | cons name prims induction =>
      rw [List.map_cons, List.mapM_cons, primOfPiece_toList (areNames name List.mem_cons_self),
        induction fun other member => areNames other (List.mem_cons_of_mem name member)]
      rfl

theorem eq_of_mapM_primOfPiece {stretches : List (List Char)}
    (read : stretches.mapM primOfPiece = .ok prims) :
    stretches = prims.map String.toList ∧ ∀ piece ∈ stretches, piece ≠ [] ∧ '.' ∉ piece := by
  induction stretches generalizing prims with
  | nil =>
      cases read
      simp
  | cons piece rest induction =>
      rw [List.mapM_cons] at read
      cases first : primOfPiece piece with
      | error flaw =>
          rw [first] at read
          cases read
      | ok name =>
          cases others : rest.mapM primOfPiece with
          | error flaw =>
              rw [first, others] at read
              cases read
          | ok names =>
              rw [first, others] at read
              cases read
              have head := eq_of_primOfPiece first
              have tail := induction others
              exact ⟨by rw [List.map_cons, ← head.1, ← tail.1],
                List.forall_mem_cons.mpr ⟨head.2, tail.2⟩⟩

theorem cons_joined (some : prims ≠ []) :
    '/' :: Text.joined '/' (prims.map String.toList) = prims.flatMap ('/' :: ·.toList) := by
  induction prims with
  | nil => exact absurd rfl some
  | cons name prims induction =>
      cases prims with
      | nil => simp [Text.joined]
      | cons next others =>
          have rest := induction (List.cons_ne_nil next others)
          simp only [List.map_cons, Text.joined, List.flatMap_cons, List.cons_append] at rest ⊢
          rw [rest]

theorem joined_ne_nil (some : prims ≠ []) (areNames : ∀ name ∈ prims, IsName name) :
    Text.joined '/' (prims.map String.toList) ≠ [] := by
  rcases List.exists_cons_of_ne_nil some with ⟨name, others, rfl⟩
  have first := (areNames name List.mem_cons_self).notEmpty
  cases others <;> simp [Text.joined, first]

theorem primsOfText_joined (some : prims ≠ []) (areNames : ∀ name ∈ prims, IsName name) :
    primsOfText (Text.joined '/' (prims.map String.toList)) = .ok prims := by
  have whole : ∀ piece ∈ prims.map String.toList, '/' ∉ piece := by
    intro piece member
    rcases List.mem_map.mp member with ⟨name, isPrim, rfl⟩
    exact (areNames name isPrim).noSlash
  have notEmpty : ¬(Text.joined '/' (prims.map String.toList)).isEmpty = true := by
    simpa using joined_ne_nil some areNames
  rw [primsOfText, if_neg notEmpty, Text.pieces_joined (by simpa using some) whole,
    mapM_primOfPiece areNames]

theorem of_primsOfText (notEmpty : text ≠ []) (read : primsOfText text = .ok prims) :
    prims ≠ [] ∧ (∀ name ∈ prims, IsName name) ∧ '/' :: text = prims.flatMap ('/' :: ·.toList) := by
  rw [primsOfText, if_neg (by simpa using notEmpty)] at read
  have parts := eq_of_mapM_primOfPiece read
  have some : prims ≠ [] := by
    rintro rfl
    exact Text.pieces_ne_nil '/' text parts.1
  refine ⟨some, ?_, ?_⟩
  · intro name isPrim
    have member : name.toList ∈ Text.pieces '/' text :=
      parts.1 ▸ List.mem_map_of_mem isPrim
    exact ⟨(parts.2 _ member).1, Text.separator_notMem_of_mem_pieces member, (parts.2 _ member).2⟩
  · rw [← cons_joined some, ← parts.1, Text.joined_pieces]

/-! ## The property -/

theorem dot_notMem_joined (some : prims ≠ []) (areNames : ∀ name ∈ prims, IsName name) :
    '.' ∉ Text.joined '/' (prims.map String.toList) := by
  have absent : '.' ∉ prims.flatMap ('/' :: ·.toList) := by
    simp only [List.mem_flatMap, List.mem_cons, not_exists, not_and, not_or]
    intro name isPrim
    exact ⟨by decide, (areNames name isPrim).noDot⟩
  rw [← cons_joined some] at absent
  exact List.not_mem_of_not_mem_cons absent

theorem ofBody_joined (some : prims ≠ []) (areNames : ∀ name ∈ prims, IsName name) :
    ofBody (Text.joined '/' (prims.map String.toList)) = .ok (.absolute prims none) := by
  rw [ofBody, Text.cutAtLast_of_notMem (dot_notMem_joined some areNames)]
  simp only [primsOfText_joined some areNames]
  rfl

theorem ofBody_joined_property (some : prims ≠ []) (areNames : ∀ name ∈ prims, IsName name)
    (isName : IsName name) :
    ofBody (Text.joined '/' (prims.map String.toList) ++ '.' :: name.toList) =
      .ok (.absolute prims (.some name)) := by
  rw [ofBody, Text.cutAtLast_append_cons isName.noDot]
  simp [isName.notEmpty, isName.noSlash, primsOfText_joined some areNames, some, bind, Except.bind,
    pure, Except.pure]

theorem spells_of_ofBody (notEmpty : body ≠ []) (read : ofBody body = .ok path) :
    Spells ('/' :: body) path := by
  rw [ofBody] at read
  split at read
  · cases names : primsOfText body with
    | error flaw =>
        rw [names] at read
        cases read
    | ok prims =>
        rw [names] at read
        cases read
        rcases of_primsOfText notEmpty names with ⟨some, areNames, spelled⟩
        have grammar : Spells _ (.absolute prims none) := .names some (by simpa using areNames)
        simpa [spelling, spelled] using grammar
  · rename_i before after cut
    rcases Text.eq_of_cutAtLast cut with ⟨rfl, noDot⟩
    split at read
    · cases read
    · rename_i wellFormed
      simp only [Bool.or_eq_true, List.isEmpty_iff, List.contains_iff_mem, not_or] at wellFormed
      cases names : primsOfText before with
      | error flaw =>
          rw [names] at read
          cases read
      | ok prims =>
          rw [names] at read
          cases prims with
          | nil => cases read
          | cons first others =>
              cases read
              have beforeNotEmpty : before ≠ [] := by
                rintro rfl
                cases names
              rcases of_primsOfText beforeNotEmpty names with ⟨some, areNames, spelled⟩
              have isName : IsName (String.ofList after) := by
                constructor <;> rw [String.toList_ofList]
                · exact wellFormed.1
                · exact wellFormed.2
                · exact noDot
              have grammar : Spells _ (.absolute (first :: others) (String.ofList after)) :=
                .names some (List.forall_mem_append.mpr ⟨areNames, by simpa using isName⟩)
              simpa [spelling, ← spelled] using grammar

/-! ## Whole texts -/

theorem ofText_cons (notEmpty : body ≠ []) : ofText ('/' :: body) = ofBody body := by
  cases body with
  | nil => exact absurd rfl notEmpty
  | cons c rest => rfl

theorem ofText_of_spells (spells : Spells text path) : ofText text = .ok path := by
  cases spells with
  | nothing => rfl
  | root => rfl
  | @names prims property some areNames =>
      have arePrims : ∀ name ∈ prims, IsName name := fun name member =>
        areNames name (List.mem_append_left _ member)
      have notEmpty := joined_ne_nil some arePrims
      rw [spelling, ← cons_joined some, List.cons_append,
        ofText_cons (List.append_ne_nil_of_left_ne_nil notEmpty _)]
      cases property with
      | none => simpa using ofBody_joined some arePrims
      | some name => simpa using ofBody_joined_property some arePrims (areNames name (by simp))

theorem ofText_eq_ok_iff : ofText text = .ok path ↔ Spells text path := by
  constructor
  · intro read
    rcases text with _ | ⟨c, body⟩
    · cases read
      exact .nothing
    · by_cases slash : c = '/'
      · subst slash
        by_cases isEmpty : body = []
        · subst isEmpty
          cases read
          exact .root
        · rw [ofText_cons isEmpty] at read
          exact spells_of_ofBody isEmpty read
      · rw [ofText] at read
        · cases read
        all_goals simp [slash]
  · exact ofText_of_spells

theorem toList_foldl_slash (prims : List Token) (start : String) :
    (prims.foldl (fun text prim => text ++ "/" ++ prim) start).toList =
      start.toList ++ prims.flatMap ('/' :: ·.toList) := by
  induction prims generalizing start with
  | nil => simp
  | cons name prims induction => simp [induction]

theorem toList_toText (spells : Spells text path) : path.toText.toList = text := by
  cases spells with
  | nothing => rfl
  | root => rfl
  | @names prims property some areNames =>
      rcases List.exists_cons_of_ne_nil some with ⟨first, others, rfl⟩
      cases property <;> simp [toText, spelling, toList_foldl_slash]

theorem parse_eq_ok_iff {text : String} : parse text = .ok path ↔ Spells text.toList path := by
  rw [← ofText_eq_ok_iff, parse]
  cases ofText text.toList <;> simp [Except.mapError]

/-- Reading accepts a text just if it is in the grammar, as the path that it spells there. Writing
that path gives the text back, so no other text is read as it. -/
theorem parse_spells_toText :
    (∀ text path, parse text = .ok path ↔ Spells text.toList path) ∧
    (∀ text path, parse text = .ok path → path.toText = text) ∧
    ∀ text other path, parse text = .ok path → parse other = .ok path → text = other := by
  have written : ∀ text path, parse text = .ok path → path.toText = text := by
    intro text path read
    exact String.toList_injective (toList_toText (parse_eq_ok_iff.mp read))
  refine ⟨fun text path => parse_eq_ok_iff, written, ?_⟩
  intro text other path read otherRead
  calc text
    _ = path.toText := (written text path read).symm
    _ = other := written other path otherRead

end LayeredScene.Path
