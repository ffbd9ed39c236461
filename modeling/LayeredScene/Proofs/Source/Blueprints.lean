import LayeredScene.Proofs.Source.Question
import LayeredScene.Source.Retained
import Mathlib.Data.List.Nodup

/-! # Where turns lead in retained data

Whichever objects are made from a blueprint, the same turns lead to what is made from the same other
blueprint. So what retained data answers is known from the blueprints that it is made from.
-/

namespace LayeredScene

namespace Source

/-- What turns lead to has one value at all times. -/
def HasValue (source : Source) (turns : List Turn) (value : Value) : Prop :=
  ∀ time, askedAt (some source) turns (.value time) = pure (.value value)

end Source

namespace Blueprint

variable {blueprint next : Blueprint} {target : Option Blueprint} {turns more : List Turn}

theorem length_parts (identity : Identity) (position : Nat) (blueprints : List (Option Blueprint)) :
    (parts identity position blueprints).length = blueprints.length := by
  induction blueprints generalizing position with
  | nil => rfl
  | cons _ _ induction => exact congrArg Nat.succ (induction (position + 1))

theorem getElem?_parts {α : Type} (make : α → Blueprint) (items : List α) (identity : Identity)
    (start position : Nat) :
    (parts identity start (items.map fun item => some (make item)))[position]?.join =
      items[position]?.map fun item => make item (identity.inner (start + position)) := by
  induction items generalizing start position with
  | nil => rfl
  | cons first rest induction =>
      cases position with
      | zero => rfl
      | succ position =>
          rw [List.map_cons, parts, List.getElem?_cons_succ, induction,
            List.getElem?_cons_succ, Nat.succ_add_eq_add_succ]

theorem present_eq (entries : List (Token × Blueprint)) (identity : Identity) :
    present entries identity = (Container.retained identity ((entries.map (·.1)).zip
      (parts identity 0 (entries.map fun entry => some entry.2)))).toSource := by
  simp [present, members, Function.comp_def]

theorem names_retained (entries : List (Token × Blueprint)) (identity : Identity) :
    (Container.retained identity ((entries.map (·.1)).zip
      (parts identity 0 (entries.map fun entry => some entry.2)))).names =
      pure (entries.map (·.1)) := by
  have sameLength : (entries.map (·.1)).length =
      (parts identity 0 (entries.map fun entry => some entry.2)).length := by
    rw [length_parts, List.length_map, List.length_map]
  rw [Container.retained, List.map_fst_zip (Nat.le_of_eq sameLength)]

/-- In whatever is made from a blueprint, turns lead to what is made from another one, or nowhere.
-/
def LeadsTo (blueprint : Blueprint) (turns : List Turn) (target : Option Blueprint) : Prop :=
  ∀ identity, ∃ inner : Identity,
    Source.follow (some (blueprint identity)) turns = pure (target.map (· inner))

theorem LeadsTo.append (leads : blueprint.LeadsTo turns (some next))
    (onward : next.LeadsTo more target) : blueprint.LeadsTo (turns ++ more) target := by
  intro identity
  rcases leads identity with ⟨inner, follows⟩
  rcases onward inner with ⟨last, followsOn⟩
  refine ⟨last, ?_⟩
  rw [Source.follow_append, follows]
  exact followsOn

theorem LeadsTo.nowhere (leads : blueprint.LeadsTo turns none) (more : List Turn) :
    blueprint.LeadsTo (turns ++ more) none := by
  intro identity
  rcases leads identity with ⟨inner, follows⟩
  refine ⟨inner, ?_⟩
  rw [Source.follow_append, follows]
  cases more <;> rfl

theorem LeadsTo.askedAt (leads : blueprint.LeadsTo turns target) (identity : Identity) :
    ∃ inner : Identity, ∀ question, Source.askedAt (some (blueprint identity)) turns question =
      Source.askedAt (target.map (· inner)) [] question := by
  rcases leads identity with ⟨inner, follows⟩
  refine ⟨inner, fun question => ?_⟩
  rw [Source.askedAt, follows, Source.askedAt, Source.follow_nil]

theorem leadsTo_present (entries : List (Token × Blueprint)) (name : Token) :
    (present entries).LeadsTo [.member name] ((entries.find? (·.1 = name)).map (·.2)) := by
  intro identity
  have found : ∀ position, ∃ inner : Identity,
      memberNamed ((entries.map (·.1)).zip
        (parts identity position (entries.map fun entry => some entry.2))) name =
        ((entries.find? (·.1 = name)).map (·.2)).map (· inner) := by
    induction entries with
    | nil => exact fun _ => ⟨identity, rfl⟩
    | cons entry entries induction =>
        intro position
        simp only [memberNamed, List.map_cons, parts, List.zip_cons_cons, List.find?_cons]
        cases decide (entry.1 = name) with
        | true => exact ⟨identity.inner position, rfl⟩
        | false => exact induction (position + 1)
  rcases found 0 with ⟨inner, isMember⟩
  refine ⟨inner, ?_⟩
  rw [← isMember, Source.follow_single, present_eq]
  rfl

theorem find?_of_mem {α : Type} {entries : List (Token × α)} {entry : Token × α}
    (names : (entries.map (·.1)).Nodup) (member : entry ∈ entries) :
    entries.find? (·.1 = entry.1) = some entry := by
  cases found : entries.find? (·.1 = entry.1) with
  | none => exact absurd (decide_eq_true rfl) (List.find?_eq_none.mp found entry member)
  | some other =>
      have isMember := List.mem_of_find?_eq_some found
      have sameName := List.find?_some found
      rw [decide_eq_true_eq] at sameName
      exact congrArg some (List.inj_on_of_nodup_map names isMember member sameName)

theorem leadsTo_entry {entries : List (Token × Blueprint)} {entry : Token × Blueprint}
    (names : (entries.map (·.1)).Nodup) (member : entry ∈ entries) :
    (present entries).LeadsTo [.member entry.1] (some entry.2) := by
  have leads := leadsTo_present entries entry.1
  rw [find?_of_mem names member] at leads
  exact leads

theorem answer_present_names (entries : List (Token × Blueprint)) (identity : Identity) :
    (present entries identity).answer .names = pure (.names (entries.map (·.1))) := by
  rw [present_eq]
  exact congrArg (Answer.names <$> ·) (names_retained entries identity)

theorem leadsTo_elements (items : List Blueprint) (position : Nat) :
    (elements (items.map some)).LeadsTo [.element position] items[position]? := by
  intro identity
  refine ⟨identity.inner (0 + position), ?_⟩
  have found := getElem?_parts id items identity 0 position
  rw [Source.follow_single]
  exact congrArg (pure : Option Source → Reads (Option Source)) found

theorem LeadsTo.hasValue_iff {type : ValueType} {content : Option type.Content} {value : Value}
    (leads : blueprint.LeadsTo turns (content.map (constantOf type))) (identity : Identity) :
    (blueprint identity).HasValue turns value ↔ content.map type.wrap = some value := by
  rcases leads.askedAt identity with ⟨inner, asked⟩
  simp only [Source.HasValue, asked]
  cases content with
  | none =>
      simp only [Option.map_none, reduceCtorEq, iff_false]
      intro hasValue
      have same := congrArg Prod.fst (congrFun (congrFun (hasValue 0) .bare) .blank)
      cases same
  | some content =>
      constructor
      · intro hasValue
        have same := congrArg Prod.fst (congrFun (congrFun (hasValue 0) .bare) .blank)
        injection same with same
        exact congrArg some same
      · intro isValue time
        cases isValue
        rfl

end Blueprint

end LayeredScene
