import LayeredScene.Path.Growth
import LayeredScene.Proofs.Path.Spelling

/-! # Paths that can be built

A path is read from text or grown from another one by children, properties and steps up. Whatever
the tokens are that it grows by, none of its names is empty and a property belongs to a prim below
the root. A path is read back from its text just if its names can be told apart there. Reading takes
care of that, but growing does not look for separators in a token: the names of a grown path are as
good as the tokens that it was grown by.
-/

namespace LayeredScene.Path

variable {allowed given : Token → Prop} {name : Token} {path other : Path}

def names : Path → List Token
  | .empty => []
  | .absolute prims property => prims ++ property.toList

/-- The names of a path are of some sort, and a property belongs to a prim below the root. -/
structure IsMadeOf (allowed : Token → Prop) (path : Path) : Prop where
  allowed : ∀ name ∈ path.names, allowed name
  belongs : path.isProperty = true → path.prims ≠ []

/-- The paths that can be built, if children and properties are only asked for by given tokens. -/
inductive Built (given : Token → Prop) : Path → Prop
  | empty : Built given .empty
  | root : Built given .root
  | read {text : String} {path : Path} (spelled : parse text = .ok path) : Built given path
  | child {path : Path} {name : Token} (built : Built given path) (isGiven : given name) :
      Built given (path.appendChild name)
  | property {path : Path} {name : Token} (built : Built given path) (isGiven : given name) :
      Built given (path.appendProperty name)
  | parent {path : Path} (built : Built given path) : Built given path.parent
  | primPath {path : Path} (built : Built given path) : Built given path.primPath

structure IsUnbroken (token : Token) : Prop where
  noSlash : '/' ∉ token.toList
  noDot : '.' ∉ token.toList

theorem IsUnbroken.isName (unbroken : IsUnbroken name) (notEmpty : name ≠ "") : IsName name where
  notEmpty := by simpa using notEmpty
  noSlash := unbroken.noSlash
  noDot := unbroken.noDot

theorem IsName.ne_empty (isName : IsName name) : name ≠ "" := by
  simpa using isName.notEmpty

/-! ## What growing keeps -/

theorem appendChild_cases (path : Path) (name : Token) :
    path.appendChild name = .empty ∨
      ∃ prims, path = .absolute prims none ∧ name ≠ "" ∧
        path.appendChild name = .absolute (prims ++ [name]) none := by
  rcases path with _ | ⟨prims, _ | property⟩
  · exact .inl rfl
  · by_cases isEmpty : name = ""
    · subst isEmpty
      exact .inl rfl
    · refine .inr ⟨prims, rfl, isEmpty, ?_⟩
      simp [appendChild, child, isEmpty, Except.toOption]
  · exact .inl rfl

theorem appendProperty_cases (path : Path) (name : Token) :
    path.appendProperty name = .empty ∨
      ∃ prims, path = .absolute prims none ∧ prims ≠ [] ∧ name ≠ "" ∧
        path.appendProperty name = .absolute prims (some name) := by
  rcases path with _ | ⟨prims, _ | property⟩
  · exact .inl rfl
  · by_cases isEmpty : name = ""
    · subst isEmpty
      exact .inl (by simp [appendProperty, property, Except.toOption])
    · by_cases isRoot : prims = []
      · subst isRoot
        exact .inl rfl
      · refine .inr ⟨prims, rfl, isRoot, isEmpty, ?_⟩
        simp [appendProperty, property, isRoot, isEmpty, Except.toOption]
  · exact .inl rfl

namespace IsMadeOf

theorem empty : IsMadeOf allowed .empty where
  allowed _ member := absurd member List.not_mem_nil
  belongs isProperty := absurd isProperty Bool.false_ne_true

theorem root : IsMadeOf allowed .root where
  allowed _ member := absurd member List.not_mem_nil
  belongs isProperty := absurd isProperty Bool.false_ne_true

theorem prims {prims : List Token} (areAllowed : ∀ name ∈ prims, allowed name) :
    IsMadeOf allowed (.absolute prims none) where
  allowed name member := areAllowed name (by simpa [names] using member)
  belongs isProperty := absurd isProperty Bool.false_ne_true

theorem child (made : IsMadeOf allowed path) (isAllowed : name ≠ "" → allowed name) :
    IsMadeOf allowed (path.appendChild name) := by
  rcases appendChild_cases path name with rejected | ⟨above, rfl, notEmpty, grown⟩
  · rw [rejected]
    exact empty
  · rw [grown]
    apply prims
    intro other member
    rcases List.mem_append.mp member with old | isNew
    · exact made.allowed other (List.mem_append_left _ old)
    · rw [List.mem_singleton.mp isNew]
      exact isAllowed notEmpty

theorem property (made : IsMadeOf allowed path) (isAllowed : name ≠ "" → allowed name) :
    IsMadeOf allowed (path.appendProperty name) := by
  rcases appendProperty_cases path name with rejected | ⟨above, rfl, some, notEmpty, grown⟩
  · rw [rejected]
    exact empty
  · rw [grown]
    constructor
    · intro other member
      rcases List.mem_append.mp member with old | isNew
      · exact made.allowed other (List.mem_append_left _ old)
      · rw [List.mem_singleton.mp isNew]
        exact isAllowed notEmpty
    · exact fun _ => some

theorem parent (made : IsMadeOf allowed path) : IsMadeOf allowed path.parent := by
  rcases path with _ | ⟨_ | ⟨first, rest⟩, _ | name⟩
  · exact empty
  · exact empty
  · exact root
  · apply prims
    intro other member
    exact made.allowed other (List.mem_append_left _ (List.dropLast_subset _ member))
  · apply prims
    intro other member
    exact made.allowed other (List.mem_append_left _ member)

theorem primPath (made : IsMadeOf allowed path) : IsMadeOf allowed path.primPath := by
  rcases path with _ | ⟨prims, _ | name⟩
  · exact made
  · exact made
  · exact made.parent

theorem of_spells {text : List Char} (spells : Spells text path) : IsMadeOf IsName path := by
  cases spells with
  | nothing => exact empty
  | root => exact root
  | names some areNames => exact ⟨areNames, fun _ => some⟩

theorem spells_toText (made : IsMadeOf IsName path) : Spells path.toText.toList path := by
  rcases path with _ | ⟨_ | ⟨first, rest⟩, _ | name⟩
  · exact .nothing
  · exact .root
  · exact absurd rfl (made.belongs rfl)
  all_goals
    have spells := Spells.names (List.cons_ne_nil first rest) made.allowed
    rw [toList_toText spells]
    exact spells

theorem imp {stronger : Token → Prop} (made : IsMadeOf stronger path)
    (weaker : ∀ name, stronger name → allowed name) : IsMadeOf allowed path where
  allowed name member := weaker name (made.allowed name member)
  belongs := made.belongs

end IsMadeOf

theorem Built.isMadeOf (built : Built given path) (takesNames : ∀ name, IsName name → allowed name)
    (takesGiven : ∀ name, given name → name ≠ "" → allowed name) : IsMadeOf allowed path := by
  induction built with
  | empty => exact .empty
  | root => exact .root
  | read spelled => exact (IsMadeOf.of_spells (parse_eq_ok_iff.mp spelled)).imp takesNames
  | child _ isGiven induction => exact induction.child (takesGiven _ isGiven)
  | property _ isGiven induction => exact induction.property (takesGiven _ isGiven)
  | parent _ induction => exact induction.parent
  | primPath _ induction => exact induction.primPath

theorem parse_toText_iff : parse path.toText = .ok path ↔ IsMadeOf IsName path := by
  rw [parse_eq_ok_iff]
  exact ⟨IsMadeOf.of_spells, IsMadeOf.spells_toText⟩

theorem eq_of_toText (made : IsMadeOf IsName path) (otherMade : IsMadeOf IsName other)
    (same : path.toText = other.toText) : path = other := by
  have read := parse_toText_iff.mpr made
  rw [same, parse_toText_iff.mpr otherMade] at read
  exact (Except.ok.inj read).symm

/-- Whatever tokens a path is grown by, its names are not empty, a property of it belongs to a prim
below the root, and it is read back from its text just if none of its names has a separator in it.
So if none of the tokens has one, the path is made of names, it is read back, and no other path that
is built with such tokens has the same text. -/
theorem built_read_back (built : Built given path) :
    IsMadeOf (· ≠ "") path ∧
      (parse path.toText = .ok path ↔ ∀ name ∈ path.names, IsUnbroken name) ∧
      ((∀ name, given name → IsUnbroken name) →
        IsMadeOf IsName path ∧ parse path.toText = .ok path ∧
          ∀ other, Built given other → path.toText = other.toText → path = other) := by
  have made : IsMadeOf (· ≠ "") path :=
    built.isMadeOf (fun _ isName => isName.ne_empty) fun _ _ notEmpty => notEmpty
  refine ⟨made, parse_toText_iff.trans ⟨?_, ?_⟩, ?_⟩
  · intro ofNames name member
    have isName := ofNames.allowed name member
    exact ⟨isName.noSlash, isName.noDot⟩
  · intro unbroken
    exact ⟨fun name member => (unbroken name member).isName (made.allowed name member),
      made.belongs⟩
  · intro unbroken
    have madeOfNames : ∀ path, Built given path → IsMadeOf IsName path := fun path built =>
      built.isMadeOf (fun _ isName => isName) fun name isGiven notEmpty =>
        (unbroken name isGiven).isName notEmpty
    refine ⟨madeOfNames path built, parse_toText_iff.mpr (madeOfNames path built), ?_⟩
    intro other otherBuilt same
    exact eq_of_toText (madeOfNames path built) (madeOfNames other otherBuilt) same

theorem built_read_back_points :
    parse (((Path.root.appendChild "World").appendChild "mesh").appendProperty "points").toText =
      .ok (.absolute ["World", "mesh"] (some "points")) := by
  have world : Built IsUnbroken (Path.root.appendChild "World") :=
    .child .root ⟨by decide, by decide⟩
  have mesh : Built IsUnbroken ((Path.root.appendChild "World").appendChild "mesh") :=
    world.child ⟨by decide, by decide⟩
  have points : IsUnbroken "points" := ⟨by decide, by decide⟩
  exact ((built_read_back (mesh.property points)).2.2 fun _ unbroken => unbroken).2.1

/-- The child `a/b` of the root has the text of the child `b` of `/a`, and is another path. -/
theorem not_read_back_slash :
    Built (fun _ => True) (Path.root.appendChild "a/b") ∧
      (Path.root.appendChild "a/b").toText = ((Path.root.appendChild "a").appendChild "b").toText ∧
      Path.root.appendChild "a/b" ≠ (Path.root.appendChild "a").appendChild "b" ∧
      ¬IsMadeOf IsName (Path.root.appendChild "a/b") := by
  refine ⟨.child .root trivial, by decide, by decide, ?_⟩
  intro made
  exact (made.allowed "a/b" List.mem_cons_self).noSlash (by decide)

end LayeredScene.Path
