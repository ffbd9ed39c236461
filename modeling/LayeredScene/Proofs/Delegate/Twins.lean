import LayeredScene.Proofs.Delegate.Memory
import LayeredScene.Proofs.Source.Blueprints
import LayeredScene.Proofs.Source.Lockstep
import Mathlib.Data.List.Forall2

/-! # Prims with a twin

A prim of a delegate and a twin of it, which differs from it in number only, are read side by side,
each from a store of its own. What is found in the two is the same if it answers all questions the
same. This carries over from the parts to the whole.
-/

namespace LayeredScene

variable {α β : Type}

/-! ## Plain readings -/

/-- In some surroundings a reading always yields the same, and always asks the same questions; it
asks for nothing that a prim remembers. -/
def Reads.IsPlain (around : Surroundings) (read : Reads α) : Prop :=
  ∃ result questions, (∀ question ∈ questions, question.2.isRemembered = false) ∧
    ∀ store, read around store = (result, { store with asked := questions ++ store.asked })

namespace Reads.IsPlain

variable {around : Surroundings}

theorem pure (result : α) : Reads.IsPlain around (Pure.pure result) :=
  ⟨result, [], nofun, fun _ => rfl⟩

theorem bind {read : Reads α} {proceed : α → Reads β} (plain : read.IsPlain around)
    (next : ∀ result, (proceed result).IsPlain around) : (read >>= proceed).IsPlain around := by
  rcases plain with ⟨result, questions, unremembered, reads⟩
  rcases next result with ⟨last, more, moreUnremembered, proceeds⟩
  refine ⟨last, more ++ questions, ?_, ?_⟩
  · intro question isAsked
    rcases List.mem_append.mp isAsked with isLater | isSooner
    · exact moreUnremembered question isLater
    · exact unremembered question isSooner
  · intro store
    show proceed (read around store).1 around (read around store).2 = _
    rw [reads, proceeds, List.append_assoc]

theorem map {read : Reads α} (use : α → β) (plain : read.IsPlain around) :
    (use <$> read).IsPlain around :=
  plain.bind fun result => .pure (use result)

theorem ask {prim : ServedPrim} {query : Query} {answer : PrimAnswers → α}
    (unremembered : query.isRemembered = false) : (prim.ask query answer).IsPlain around := by
  refine ⟨_, [(prim.delegate, query)], ?_, fun store => rfl⟩
  intro question isAsked
  rw [List.mem_singleton.mp isAsked]
  exact unremembered

end Reads.IsPlain

/-! ## Side by side -/

/-- A prim, the number of its twin, and the stores from which the two are read. -/
structure Twins where
  around : Surroundings
  prim : DelegatedPrim
  number : Nat
  start : Store
  twinStart : Store

namespace Twins

variable {twins : Twins} {before : Store → Store → Prop}

def twin (twins : Twins) : DelegatedPrim := { twins.prim with number := twins.number }

structure Done (twins : Twins) (store twinStore : Store) : Prop where
  kept : twins.prim.Kept twins.around twins.start store
  twinKept : twins.twin.Kept twins.around twins.twinStart twinStore
  unbracketed : store.unbracketed = twinStore.unbracketed

/-- In addition, objects made by the readings so far have fetched nothing; among them are those of
some numbers and, with the twin, of some others. -/
structure Minted (twins : Twins) (numbers : List (Nat × Nat)) (store twinStore : Store) : Prop
    extends twins.Done store twinStore where
  unsampled : ∀ {number}, twins.start.next ≤ number → store.Unsampled number
  twinUnsampled : ∀ {number}, twins.twinStart.next ≤ number → twinStore.Unsampled number
  given : ∀ pair ∈ numbers, twins.start.next ≤ pair.1 ∧ pair.1 < store.next
  twinGiven : ∀ pair ∈ numbers, twins.twinStart.next ≤ pair.2 ∧ pair.2 < twinStore.next

structure Steady (twins : Twins) (before : Store → Store → Prop) : Prop where
  done : ∀ {store twinStore}, before store twinStore → twins.Done store twinStore
  newNumber : ∀ {store twinStore}, before store twinStore →
    before { store with next := store.next + 1 } { twinStore with next := twinStore.next + 1 }
  asked : ∀ {store twinStore} {questions : List (Nat × Query)},
    (∀ question ∈ questions, question.2.isRemembered = false) → before store twinStore →
    before { store with asked := questions ++ store.asked }
      { twinStore with asked := questions ++ twinStore.asked }

theorem steady_done : twins.Steady twins.Done where
  done := id
  newNumber done := ⟨done.kept.newNumber, done.twinKept.newNumber, done.unbracketed⟩
  asked unremembered done :=
    ⟨done.kept.asked unremembered, done.twinKept.asked unremembered, done.unbracketed⟩

theorem steady_minted (numbers : List (Nat × Nat)) : twins.Steady (twins.Minted numbers) where
  done minted := minted.toDone
  newNumber minted :=
    ⟨steady_done.newNumber minted.toDone,
      fun since => (minted.unsampled since).of_same fun _ => rfl,
      fun since => (minted.twinUnsampled since).of_same fun _ => rfl,
      fun pair isGiven => (minted.given pair isGiven).imp_right Nat.lt_succ_of_lt,
      fun pair isGiven => (minted.twinGiven pair isGiven).imp_right Nat.lt_succ_of_lt⟩
  asked unremembered minted :=
    ⟨steady_done.asked unremembered minted.toDone,
      fun since => (minted.unsampled since).of_same fun _ => rfl,
      fun since => (minted.twinUnsampled since).of_same fun _ => rfl,
      minted.given, minted.twinGiven⟩

theorem Minted.newNumber {numbers : List (Nat × Nat)} {store twinStore : Store}
    (minted : twins.Minted numbers store twinStore) :
    twins.Minted ((store.next, twinStore.next) :: numbers) { store with next := store.next + 1 }
      { twinStore with next := twinStore.next + 1 } := by
  have steady := (steady_minted numbers).newNumber minted
  refine ⟨steady.toDone, steady.unsampled, steady.twinUnsampled, ?_, ?_⟩
  · exact List.forall_mem_cons.mpr
      ⟨⟨minted.kept.reached, Nat.lt_succ_self _⟩, steady.given⟩
  · exact List.forall_mem_cons.mpr
      ⟨⟨minted.twinKept.reached, Nat.lt_succ_self _⟩, steady.twinGiven⟩

/-- Two readings yield the same and leave both memories up to date. -/
def Yields (twins : Twins) (before : Store → Store → Prop) (read twinRead : Reads α) : Prop :=
  Lockstep twins.around twins.around before read twinRead fun result twinResult store twinStore =>
    result = twinResult ∧ twins.Done store twinStore

theorem Yields.bind {read twinRead : Reads α} {proceed twinProceed : α → Reads β}
    (yields : twins.Yields before read twinRead)
    (next : ∀ result, twins.Yields twins.Done (proceed result) (twinProceed result)) :
    twins.Yields before (read >>= proceed) (twinRead >>= twinProceed) := by
  refine Lockstep.bind yields fun result twinResult store twinStore given => ?_
  rcases given with ⟨rfl, done⟩
  exact next result store twinStore done

theorem Yields.map {read twinRead : Reads α} (use : α → β)
    (yields : twins.Yields before read twinRead) :
    twins.Yields before (use <$> read) (use <$> twinRead) :=
  yields.bind fun _ _ _ done => ⟨rfl, done⟩

theorem Steady.plain (steady : twins.Steady before) {read : Reads α}
    (plain : read.IsPlain twins.around) : Alike twins.around twins.around before read read := by
  rcases plain with ⟨result, questions, unremembered, reads⟩
  intro store twinStore stores
  rw [reads, reads]
  exact ⟨rfl, steady.asked unremembered stores⟩

theorem Steady.yields (steady : twins.Steady before) {read twinRead : Reads α}
    (alike : Alike twins.around twins.around before read twinRead) :
    twins.Yields before read twinRead :=
  alike.imp fun _ _ _ _ given => ⟨given.1, steady.done given.2⟩

/-! ## The same answers -/

def Same (twins : Twins) (found twinFound : Option Source) (store twinStore : Store) : Prop :=
  ∀ turns question,
    (Source.askedAt found turns question twins.around store).1 =
        (Source.askedAt twinFound turns question twins.around twinStore).1 ∧
      twins.Done (Source.askedAt found turns question twins.around store).2
        (Source.askedAt twinFound turns question twins.around twinStore).2

def Finds (twins : Twins) (before : Store → Store → Prop)
    (read twinRead : Reads (Option Source)) : Prop :=
  Lockstep twins.around twins.around before read twinRead twins.Same

def From (twins : Twins) (before : Store → Store → Prop) (source twinSource : Source) : Prop :=
  ∀ store twinStore, before store twinStore →
    twins.Same (some source) (some twinSource) store twinStore

/-- Two blueprints make what is the same from then on, whichever objects are made. -/
def Makes (twins : Twins) (before : Store → Store → Prop) (blueprint twinBlueprint : Blueprint) :
    Prop :=
  ∀ identity twinIdentity, twins.From before (blueprint identity) (twinBlueprint twinIdentity)

theorem same_none {store twinStore : Store} (done : twins.Done store twinStore) :
    twins.Same none none store twinStore := by
  intro turns question
  rw [Source.askedAt_none]
  exact ⟨rfl, done⟩

theorem Makes.finds {after : Store → Store → Prop} {blueprint twinBlueprint : Blueprint}
    (makes : twins.Makes after blueprint twinBlueprint)
    (newNumber : ∀ store twinStore, before store twinStore →
      after { store with next := store.next + 1 } { twinStore with next := twinStore.next + 1 }) :
    twins.Finds before blueprint.found twinBlueprint.found :=
  fun store twinStore stores => makes _ _ _ _ (newNumber store twinStore stores)

theorem Yields.finds {read twinRead : Reads α} {proceed twinProceed : α → Reads (Option Source)}
    (yields : twins.Yields before read twinRead)
    (finds : ∀ result, twins.Finds twins.Done (proceed result) (twinProceed result)) :
    twins.Finds before (read >>= proceed) (twinRead >>= twinProceed) := by
  refine Lockstep.bind yields fun result twinResult store twinStore given => ?_
  rcases given with ⟨rfl, done⟩
  exact finds result store twinStore done

theorem Finds.ite {condition : Prop} [Decidable condition]
    {read other twinRead twinOther : Reads (Option Source)}
    (holds : condition → twins.Finds before read twinRead)
    (fails : ¬condition → twins.Finds before other twinOther) :
    twins.Finds before (if condition then read else other)
      (if condition then twinRead else twinOther) := by
  by_cases isSo : condition
  · rw [if_pos isSo, if_pos isSo]
    exact holds isSo
  · rw [if_neg isSo, if_neg isSo]
    exact fails isSo

namespace Steady

variable (steady : twins.Steady before)
include steady

theorem finds_none : twins.Finds before (pure none) (pure none) :=
  fun _ _ stores => same_none (steady.done stores)

theorem finds_found {blueprint twinBlueprint : Blueprint}
    (makes : twins.Makes before blueprint twinBlueprint) :
    twins.Finds before blueprint.found twinBlueprint.found :=
  makes.finds fun _ _ => steady.newNumber

/-! ## Sampled sources -/

theorem yields_pure (result : α) : twins.Yields before (pure result) (pure result) :=
  steady.yields (.pure result)

theorem from_sampled {content twinContent : Sampled}
    (answers : ∀ question,
      twins.Yields before (content.answer question) (twinContent.answer question)) :
    twins.From before (.sampled content) (.sampled twinContent) := by
  intro store twinStore stores turns question
  cases turns with
  | nil => exact answers question store twinStore stores
  | cons turn turns =>
      have nowhere : ∀ content : Sampled, (Source.sampled content).turn turn = pure none := by
        intro content
        cases turn <;> rfl
      rw [Source.askedAt_nowhere (nowhere content), Source.askedAt_nowhere (nowhere twinContent)]
      exact ⟨rfl, steady.done stores⟩

theorem from_ofType {type : ValueType} {mark twinMark : Mark}
    {value twinValue : Float32 → Reads type.Content}
    {times twinTimes : Float32 → Float32 → Reads (Option (List Float32))}
    (values : ∀ time, twins.Yields before (value time) (twinValue time))
    (timesSame : ∀ start finish, twins.Yields before (times start finish) (twinTimes start finish)) :
    twins.From before (.sampled (.ofType mark type value times))
      (.sampled (.ofType twinMark type twinValue twinTimes)) := by
  refine steady.from_sampled fun question => ?_
  cases question with
  | kind => exact steady.yields_pure _
  | type => exact steady.yields_pure _
  | names => exact steady.yields_pure _
  | size => exact steady.yields_pure _
  | value time => exact ((values time).map type.wrap).map Answer.value
  | times start finish => exact (timesSame start finish).map Answer.times
  | content asked time =>
      have content : twins.Yields before ((Sampled.ofType mark type value times).read asked time)
          ((Sampled.ofType twinMark type twinValue twinTimes).read asked time) := by
        rw [Sampled.read_ofType, Sampled.read_ofType]
        exact ((values time).map type.wrap).map asked.read
      exact content.map (Answer.content asked)

theorem from_untyped {mark twinMark : Mark} {value twinValue : Float32 → Reads Value}
    {times twinTimes : Float32 → Float32 → Reads (Option (List Float32))}
    (values : ∀ time, twins.Yields before (value time) (twinValue time))
    (timesSame : ∀ start finish, twins.Yields before (times start finish) (twinTimes start finish)) :
    twins.From before (.sampled (.untyped mark value times))
      (.sampled (.untyped twinMark twinValue twinTimes)) := by
  refine steady.from_sampled fun question => ?_
  cases question with
  | kind => exact steady.yields_pure _
  | type => exact steady.yields_pure _
  | names => exact steady.yields_pure _
  | size => exact steady.yields_pure _
  | value time => exact (values time).map Answer.value
  | times start finish => exact (timesSame start finish).map Answer.times
  | content asked time => exact ((values time).map asked.read).map (Answer.content asked)

theorem makes_lazy {read : Reads Value} (plain : read.IsPlain twins.around) :
    twins.Makes before (.lazy read) (.lazy read) :=
  fun _ _ => steady.from_untyped (fun _ => steady.yields (steady.plain plain))
    fun _ _ => steady.yields_pure none

theorem makes_lazyOf {type : ValueType} {read twinRead : Reads type.Content}
    (yields : twins.Yields before read twinRead) :
    twins.Makes before (.lazyOf type read) (.lazyOf type twinRead) :=
  fun _ _ => steady.from_ofType (fun _ => yields) fun _ _ => steady.yields_pure none

theorem makes_constant (value : Value) : twins.Makes before (.constant value) (.constant value) :=
  fun _ _ => steady.from_untyped (fun _ => steady.yields_pure value)
    fun _ _ => steady.yields_pure none

theorem makes_constantOf (type : ValueType) (content : type.Content) :
    twins.Makes before (.constantOf type content) (.constantOf type content) :=
  fun _ _ => steady.from_ofType (fun _ => steady.yields_pure content)
    fun _ _ => steady.yields_pure none

theorem makes_ofValue (value : Value) : twins.Makes before (.ofValue value) (.ofValue value) := by
  intro identity twinIdentity
  rw [Blueprint.ofValue, Blueprint.ofValue]
  rcases Sampled.ofValue_eq_or value with made | ⟨type, content, -, made⟩
  · rw [made, made]
    exact steady.makes_constant value identity twinIdentity
  · rw [made, made]
    exact steady.makes_constantOf type content identity twinIdentity

/-! ## Containers and vectors -/

theorem from_container {mark twinMark : Mark} {names twinNames : Reads (List Token)}
    {get twinGet : Token → Reads (Option Source)}
    (namesSame : twins.Yields before names twinNames)
    (members : ∀ name, twins.Finds before (get name) (twinGet name)) :
    twins.From before (.container mark names get) (.container twinMark twinNames twinGet) := by
  intro store twinStore stores turns question
  cases turns with
  | nil =>
      have answers : twins.Yields before ((Source.container mark names get).answer question)
          ((Source.container twinMark twinNames twinGet).answer question) := by
        cases question with
        | names => exact namesSame.map Answer.names
        | _ => exact steady.yields_pure _
      exact answers store twinStore stores
  | cons turn turns =>
      cases turn with
      | member name => exact members name store twinStore stores turns question
      | element position => exact steady.finds_none store twinStore stores turns question
      | nowhere => exact steady.finds_none store twinStore stores turns question

theorem from_vector {mark twinMark : Mark} {size twinSize : Reads Nat}
    {element twinElement : Nat → Reads (Option Source)}
    (sizeSame : twins.Yields before size twinSize)
    (elements : ∀ position, twins.Finds before (element position) (twinElement position)) :
    twins.From before (.vector mark size element) (.vector twinMark twinSize twinElement) := by
  intro store twinStore stores turns question
  cases turns with
  | nil =>
      have answers : twins.Yields before ((Source.vector mark size element).answer question)
          ((Source.vector twinMark twinSize twinElement).answer question) := by
        cases question with
        | size => exact sizeSame.map Answer.size
        | _ => exact steady.yields_pure _
      exact answers store twinStore stores
  | cons turn turns =>
      cases turn with
      | member name => exact steady.finds_none store twinStore stores turns question
      | element position => exact elements position store twinStore stores turns question
      | nowhere => exact steady.finds_none store twinStore stores turns question

theorem finds_pure {found twinFound : Option Source}
    (same : Option.Rel (twins.From before) found twinFound) :
    twins.Finds before (pure found) (pure twinFound) := by
  cases same with
  | none => exact steady.finds_none
  | some from_ => exact from_

omit steady in
theorem memberNamed_parts {entries twinEntries : List (Token × Blueprint)}
    (same : List.Forall₂ (fun entry twinEntry =>
      entry.1 = twinEntry.1 ∧ twins.Makes before entry.2 twinEntry.2) entries twinEntries)
    (identity twinIdentity : Identity) (position : Nat) (name : Token) :
    Option.Rel (twins.From before)
      (memberNamed ((entries.map (·.1)).zip
        (Blueprint.parts identity position (entries.map fun entry => some entry.2))) name)
      (memberNamed ((twinEntries.map (·.1)).zip
        (Blueprint.parts twinIdentity position (twinEntries.map fun entry => some entry.2)))
        name) := by
  induction same generalizing position with
  | nil => exact .none
  | cons first rest induction =>
      rename_i entry twinEntry entries twinEntries
      rcases first with ⟨sameName, makes⟩
      simp only [memberNamed, List.map_cons, Blueprint.parts, List.zip_cons_cons, List.find?_cons,
        ← sameName]
      cases decide (entry.1 = name) with
      | true => exact .some (makes _ _)
      | false => exact induction (position + 1)

theorem makes_present {entries twinEntries : List (Token × Blueprint)}
    (same : List.Forall₂ (fun entry twinEntry =>
      entry.1 = twinEntry.1 ∧ twins.Makes before entry.2 twinEntry.2) entries twinEntries) :
    twins.Makes before (.present entries) (.present twinEntries) := by
  have namesSame : entries.map (·.1) = twinEntries.map (·.1) := by
    induction same with
    | nil => rfl
    | cons first _ induction => exact congrArg₂ List.cons first.1 induction
  intro identity twinIdentity
  rw [Blueprint.present_eq, Blueprint.present_eq]
  refine steady.from_container ?_ fun name =>
    steady.finds_pure (memberNamed_parts same identity twinIdentity 0 name)
  rw [Blueprint.names_retained, Blueprint.names_retained, namesSame]
  exact steady.yields_pure _

theorem makes_present_self {entries : List (Token × Blueprint)}
    (same : ∀ entry ∈ entries, twins.Makes before entry.2 entry.2) :
    twins.Makes before (.present entries) (.present entries) :=
  steady.makes_present (List.forall₂_same.mpr fun entry isEntry => ⟨rfl, same entry isEntry⟩)

theorem makes_elements {make : α → Blueprint} {items : List α}
    (same : ∀ item ∈ items, twins.Makes before (make item) (make item)) :
    twins.Makes before (.elements (items.map fun item => some (make item)))
      (.elements (items.map fun item => some (make item))) := by
  intro identity twinIdentity
  refine steady.from_vector ?_ fun position => steady.finds_pure ?_
  · rw [Blueprint.length_parts, Blueprint.length_parts]
    exact steady.yields_pure _
  · rw [Blueprint.getElem?_parts, Blueprint.getElem?_parts]
    cases found : items[position]? with
    | none => exact .none
    | some item => exact .some (same item (List.mem_of_getElem? found) _ _)

end Steady

-- by recursion on values: the entries of a dictionary hold values again
mutual

theorem Steady.makes_ofEntry (steady : twins.Steady before) :
    ∀ value, twins.Makes before (.ofEntry value) (.ofEntry value)
  | .dictionary entries => steady.makes_present_self (steady.makes_ofEntries entries)
  | .empty => steady.makes_ofValue _
  | .single _ _ => steady.makes_ofValue _
  | .array _ _ => steady.makes_ofValue _
  | .foreign _ => steady.makes_ofValue _

theorem Steady.makes_ofEntries (steady : twins.Steady before) :
    ∀ (entries : List (String × Value)),
      ∀ entry ∈ Blueprint.ofEntries entries, twins.Makes before entry.2 entry.2
  | [] => nofun
  | (key, value) :: rest => by
      intro entry isEntry
      rcases List.mem_cons.mp isEntry with rfl | isLater
      · exact steady.makes_ofEntry value
      · exact steady.makes_ofEntries rest entry isLater

end

theorem Steady.makes_ofDictionary (steady : twins.Steady before) (entries : Dictionary) :
    twins.Makes before (.ofDictionary entries) (.ofDictionary entries) :=
  steady.makes_present_self (steady.makes_ofEntries entries)

/-! ## What objects made by readings fetch -/

theorem yields_bracketed [Inhabited α] (found : Option α) :
    twins.Yields twins.Done (Reads.bracketed found) (Reads.bracketed found) := by
  cases found with
  | some found => exact steady_done.yields_pure found
  | none =>
      intro store twinStore done
      exact ⟨rfl, done.kept.unbracketed, done.twinKept.unbracketed, rfl⟩

theorem yields_remembered {slot : Nat → Slot α} (sampled : ∀ number, (slot number).IsSampled number)
    {fetch : Reads α} (plain : fetch.IsPlain twins.around) {numbers : List (Nat × Nat)}
    {number twinNumber : Nat} (isGiven : (number, twinNumber) ∈ numbers) :
    twins.Yields (twins.Minted numbers) (Reads.remembered (slot number) fetch)
      (Reads.remembered (slot twinNumber) fetch) := by
  rcases plain with ⟨result, questions, unremembered, fetches⟩
  intro store twinStore minted
  have given := minted.given _ isGiven
  have twinGiven := minted.twinGiven _ isGiven
  rw [Reads.remembered_of_none ((sampled number).empty (minted.unsampled given.1)),
    Reads.remembered_of_none ((sampled twinNumber).empty (minted.twinUnsampled twinGiven.1)),
    fetches, fetches]
  refine ⟨rfl, ?_⟩
  have done := steady_done.asked unremembered minted.toDone
  refine ⟨done.kept.put (sampled number) given.2 _,
    done.twinKept.put (sampled twinNumber) twinGiven.2 _, ?_⟩
  rw [(sampled number).unbracketed, (sampled twinNumber).unbracketed]
  exact done.unbracketed

theorem finds_minting {numbers : List (Nat × Nat)} {find twinFind : Nat → Reads (Option Source)}
    (finds : ∀ number twinNumber,
      twins.Finds (twins.Minted ((number, twinNumber) :: numbers)) (find number)
        (twinFind twinNumber)) :
    twins.Finds (twins.Minted numbers) (Reads.newNumber >>= find)
      (Reads.newNumber >>= twinFind) :=
  fun _ _ minted => finds _ _ _ _ minted.newNumber

end Twins

end LayeredScene
