import LayeredScene.Proofs.Delegate.Members

/-! # Coherence of what is remembered

A prim of a delegate lives through events: delegates answer otherwise, something in the prim is said
to have changed, and the data of the prim is read. As long as nothing is read while the prim
remembers a piece that is answered otherwise by now and was not said to have changed, readings do
not depend on what the prim remembers. -/

namespace LayeredScene

inductive PrimEvent
  /-- what readings consult is another, delegates above all -/
  | answered (around : Surroundings)
  /-- something is said to have changed -/
  | dirtied (changed : LocatorSet)
  /-- a question is put to what turns lead to from the data of the prim -/
  | read (turns : List Turn) (question : Question)

structure PrimCourse where
  around : Surroundings
  store : Store
  /-- whether a remembered piece came to be answered otherwise and was not said to have changed -/
  owed : Piece → Prop

namespace DelegatedPrim

def make (delegate : Nat) (path : Path) (type : Token) : Reads DelegatedPrim := do
  return ⟨⟨⟨delegate, path⟩, ← Reads.newNumber⟩, type⟩

def reading (prim : DelegatedPrim) (turns : List Turn) (question : Question) : Reads Answer :=
  Source.askedAt (some prim.data.toSource) turns question

def readingAnew (prim : DelegatedPrim) (turns : List Turn) (question : Question) :
    Reads Answer := do
  (← make prim.delegate prim.path prim.type).reading turns question

def after (prim : DelegatedPrim) (course : PrimCourse) : PrimEvent → PrimCourse
  | .answered around =>
      { course with
        around := around
        owed := fun piece => course.owed piece ∨
          (prim.recalled course.store piece).isSome ∧
            piece.answered (prim.answers around) ≠ piece.answered (prim.answers course.around) }
  | .dirtied changed =>
      { course with
        store := prim.dirtied changed course.store
        owed := fun piece => course.owed piece ∧ changed.meetsLocator piece.place = false }
  | .read turns question =>
      { course with store := (prim.reading turns question course.around course.store).2 }

def afterAll (prim : DelegatedPrim) (course : PrimCourse) (events : List PrimEvent) : PrimCourse :=
  events.foldl prim.after course

/-- Whenever a prim is read, nothing is owed. -/
def Heeds (prim : DelegatedPrim) (start : PrimCourse) (events : List PrimEvent) : Prop :=
  ∀ earlier turns question later, events = earlier ++ .read turns question :: later →
    ∀ piece, ¬(prim.afterAll start earlier).owed piece

/-- The memory of a prim is up to date but for what is owed. -/
structure OnCourse (prim : DelegatedPrim) (course : PrimCourse) : Prop where
  tidy : prim.Tidy course.store
  recalls : ∀ piece, ¬course.owed piece → prim.Recalls course.around course.store piece

variable {prim : DelegatedPrim} {course start : PrimCourse} {around : Surroundings} {store : Store}

theorem OnCourse.coherent (onCourse : prim.OnCourse course)
    (nothingOwed : ∀ piece, ¬course.owed piece) : prim.Coherent course.around course.store :=
  { onCourse.tidy with recalls := fun piece => onCourse.recalls piece (nothingOwed piece) }

theorem recalled_of_blank (blank : store.prims prim.number = .blank) (piece : Piece) :
    prim.recalled store piece = none := by
  cases piece <;> simp only [recalled, blank] <;> rfl

theorem coherent_make (orderly : store.IsOrderly) (delegate : Nat) (path : Path) (type : Token) :
    (make delegate path type around store).1.Coherent around
      (make delegate path type around store).2 := by
  have blank : (make delegate path type around store).2.prims
      (make delegate path type around store).1.number = .blank :=
    (orderly (Nat.le_refl _)).prims
  constructor
  case recalls =>
    intro piece content isRecalled
    rw [recalled_of_blank blank] at isRecalled
    contradiction
  constructor
  case orderly =>
    intro number beyond
    have unused := orderly (Nat.le_of_succ_le beyond)
    exact ⟨unused.toUnsampled.of_same fun _ => rfl, unused.prototypes, unused.prims⟩
  case made => exact Nat.lt_succ_self _
  case topology =>
    intro number isKept
    rw [blank] at isKept
    contradiction
  case uncached => exact fun piece _ => recalled_of_blank blank piece

/-! ## Reading -/

theorem Coherent.reading (coherent : prim.Coherent around store) (turns : List Turn)
    (question : Question) :
    (prim.reading turns question around store).1 =
        (prim.readingAnew turns question around store).1 ∧
      (prim.reading turns question around store).2.unbracketed =
        (prim.readingAnew turns question around store).2.unbracketed ∧
      prim.Kept around store (prim.reading turns question around store).2 := by
  -- the twin is the prim newly built
  let twins : Twins := {
    around := around
    prim := prim
    number := store.next
    start := store
    twinStart := { store with next := store.next + 1 } }
  have anew : (make prim.delegate prim.path prim.type around store).1.Coherent around
      (make prim.delegate prim.path prim.type around store).2 :=
    coherent_make coherent.orderly prim.delegate prim.path prim.type
  have minted : twins.Minted [] store { store with next := store.next + 1 } := by
    refine ⟨⟨coherent.kept, anew.kept, rfl⟩, ?_, ?_, nofun, nofun⟩
    · exact fun since => (coherent.orderly since).toUnsampled
    · exact fun since => (anew.orderly since).toUnsampled
  rcases Twins.from_data store _ minted turns question with ⟨same, done⟩
  exact ⟨same, done.unbracketed, done.kept⟩

theorem OnCourse.after (onCourse : prim.OnCourse course) {event : PrimEvent}
    (heeded : ∀ turns question, event = .read turns question → ∀ piece, ¬course.owed piece) :
    prim.OnCourse (prim.after course event) := by
  cases event with
  | answered around =>
      refine ⟨onCourse.tidy, ?_⟩
      intro piece notOwed content isRecalled
      -- a piece that is remembered and answered otherwise would be owed
      have notOwedSoFar : ¬course.owed piece := fun isOwed => notOwed (.inl isOwed)
      have same : piece.answered (prim.answers around) =
          piece.answered (prim.answers course.around) := by
        by_contra different
        exact notOwed (.inr ⟨Option.isSome_of_mem isRecalled, different⟩)
      exact (onCourse.recalls piece notOwedSoFar content isRecalled).trans same.symm
  | dirtied changed =>
      refine ⟨onCourse.tidy.dirtied changed, ?_⟩
      intro piece notOwed content isRecalled
      -- a piece that is met is forgotten; the others are as they were
      have recalled : prim.recalled (prim.dirtied changed course.store) piece = some content :=
        isRecalled
      rw [recalled_dirtied] at recalled
      cases meets : changed.meetsLocator piece.place with
      | true =>
          rw [meets] at recalled
          contradiction
      | false =>
          rw [meets] at recalled
          exact onCourse.recalls piece (fun isOwed => notOwed ⟨isOwed, meets⟩) content recalled
  | read turns question =>
      have coherent := onCourse.coherent (heeded turns question rfl)
      have kept := (coherent.reading turns question).2.2
      exact ⟨kept.toTidy, fun piece _ => kept.recalls piece⟩

/-! ## Whole courses -/

theorem afterAll_concat (events : List PrimEvent) (event : PrimEvent) :
    prim.afterAll start (events ++ [event]) = prim.after (prim.afterAll start events) event :=
  List.foldl_concat ..

variable {events earlier segment later : List PrimEvent}

theorem OnCourse.afterAll (onCourse : prim.OnCourse start) (heeds : prim.Heeds start events)
    (isEarlier : events = earlier ++ later) : prim.OnCourse (prim.afterAll start earlier) := by
  induction earlier using List.reverseRecOn generalizing later with
  | nil => exact onCourse
  | append_singleton earlier event induction =>
      rw [List.append_assoc, List.singleton_append] at isEarlier
      rw [afterAll_concat]
      refine (induction isEarlier).after fun turns question isRead => ?_
      rw [isRead] at isEarlier
      exact heeds earlier turns question later isEarlier

theorem OnCourse.timesDue (onCourse : prim.OnCourse start) (heeds : prim.Heeds start events)
    (isPart : events = earlier ++ segment ++ later) {piece : Piece}
    (unmet : ∀ changed, .dirtied changed ∈ segment → changed.meetsLocator piece.place = false) :
    prim.timesDue (prim.afterAll start (earlier ++ segment)).store piece ≤
      prim.timesDue (prim.afterAll start earlier).store piece := by
  induction segment using List.reverseRecOn generalizing later with
  | nil => exact Nat.le_of_eq (by rw [List.append_nil])
  | append_singleton segment event induction =>
      have isSooner : events = earlier ++ segment ++ event :: later := by
        rw [isPart]
        simp
      have sooner := induction isSooner fun changed isSaid =>
        unmet changed (List.mem_append_left _ isSaid)
      refine Nat.le_trans ?_ sooner
      rw [← List.append_assoc, afterAll_concat]
      cases event with
      | answered around => exact Nat.le_refl _
      | dirtied changed =>
          have apart := unmet changed (List.mem_append_right _ (List.mem_singleton_self _))
          exact Nat.le_of_eq (timesDue_dirtied apart)
      | read turns question =>
          have coherent := (onCourse.afterAll heeds isSooner).coherent
            (heeds _ turns question later isSooner)
          exact (coherent.reading turns question).2.2.due piece

theorem timesAsked_le_timesDue (store : Store) (piece : Piece) :
    prim.timesAsked store piece ≤ prim.timesDue store piece :=
  Nat.le_add_right _ _

theorem timesDue_le (store : Store) (piece : Piece) :
    prim.timesDue store piece ≤ prim.timesAsked store piece + piece.questions := by
  rw [timesDue]
  split
  · exact Nat.le_add_right _ _
  · exact Nat.le_refl _

/-- On a course on which all that changes is said before it is read, every reading of a prim gives
what reading it anew would give; a piece is fetched at most once as long as nothing that meets its
place is said to have changed; and what does not meet the places that are remembered makes the prim
forget nothing. -/
theorem reads_coherently (orderly : store.IsOrderly) (delegate : Nat) (path : Path) (type : Token)
    (events : List PrimEvent) :
    let prim := (make delegate path type around store).1
    let start : PrimCourse := ⟨around, (make delegate path type around store).2, fun _ => False⟩
    prim.Heeds start events →
      (∀ earlier turns question later, events = earlier ++ .read turns question :: later →
        let course := prim.afterAll start earlier
        let read := prim.reading turns question course.around course.store
        let readAnew := prim.readingAnew turns question course.around course.store
        read.1 = readAnew.1 ∧ read.2.unbracketed = readAnew.2.unbracketed) ∧
      (∀ earlier segment later piece, events = earlier ++ segment ++ later →
        (∀ changed, .dirtied changed ∈ segment → changed.meetsLocator piece.place = false) →
        prim.timesAsked (prim.afterAll start (earlier ++ segment)).store piece ≤
          prim.timesAsked (prim.afterAll start earlier).store piece + piece.questions) ∧
      (∀ earlier later changed, events = earlier ++ later →
        changed.meets (rememberedPlaces type) = false →
        prim.dirtied changed (prim.afterAll start earlier).store =
          (prim.afterAll start earlier).store) := by
  intro prim start heeds
  have coherent : prim.Coherent around start.store := coherent_make orderly delegate path type
  have onCourse : prim.OnCourse start := ⟨coherent.toTidy, fun piece _ => coherent.recalls piece⟩
  refine ⟨?_, ?_, ?_⟩
  · intro earlier turns question later isRead
    have here := (onCourse.afterAll heeds isRead).coherent
      (heeds earlier turns question later isRead)
    rcases here.reading turns question with ⟨same, unbracketed, -⟩
    exact ⟨same, unbracketed⟩
  · intro earlier segment later piece isPart unmet
    calc
      prim.timesAsked (prim.afterAll start (earlier ++ segment)).store piece ≤
          prim.timesDue (prim.afterAll start (earlier ++ segment)).store piece :=
        timesAsked_le_timesDue _ piece
      _ ≤ prim.timesDue (prim.afterAll start earlier).store piece :=
        onCourse.timesDue heeds isPart unmet
      _ ≤ prim.timesAsked (prim.afterAll start earlier).store piece + piece.questions :=
        timesDue_le _ piece
  · intro earlier later changed isEarlier apart
    exact (onCourse.afterAll heeds isEarlier).tidy.dirtied_of_apart apart

/-! ## A mesh that changes -/

def oneFace : Surroundings :=
  { Surroundings.bare with
    delegates := fun _ _ =>
      { PrimAnswers.unauthored with
        meshTopology := { (default : MeshTopology) with faceVertexCounts := [3] } } }

def faceCounts : PrimEvent :=
  .read [.member "mesh", .member "topology", .member "faceVertexCounts"] (.value 0)

def changedMesh : List PrimEvent :=
  [faceCounts, .answered oneFace, .dirtied (.single .mesh), faceCounts]

theorem heeds_changedMesh :
    (make 0 .root "mesh" .bare .blank).1.Heeds
      ⟨.bare, (make 0 .root "mesh" .bare .blank).2, fun _ => False⟩ changedMesh := by
  intro earlier turns question later isRead piece isOwed
  rcases earlier with _ | ⟨first, _ | ⟨second, _ | ⟨third, _ | ⟨fourth, earlier⟩⟩⟩⟩
  · exact isOwed
  · cases isRead
  · cases isRead
  · cases isRead
    rcases isOwed with ⟨impossible | ⟨-, different⟩, unmet⟩
    · exact impossible
    · cases piece
      case meshTopology => exact absurd unmet (by decide)
      all_goals exact different rfl
  · simp [changedMesh] at isRead

theorem reads_coherently_changedMesh :
    let prim := (make 0 .root "mesh" .bare .blank).1
    let start : PrimCourse := ⟨.bare, (make 0 .root "mesh" .bare .blank).2, fun _ => False⟩
    let course := prim.afterAll start [faceCounts, .answered oneFace, .dirtied (.single .mesh)]
    let turns : List Turn := [.member "mesh", .member "topology", .member "faceVertexCounts"]
    (prim.reading turns (.value 0) course.around course.store).1 =
        (prim.readingAnew turns (.value 0) course.around course.store).1 ∧
      prim.timesAsked (prim.afterAll start [faceCounts]).store .meshTopology ≤ 1 := by
  intro prim start course turns
  rcases reads_coherently Store.isOrderly_blank 0 .root "mesh" changedMesh heeds_changedMesh with
    ⟨reads, fetches, -⟩
  have fetched := fetches [] [faceCounts] (changedMesh.drop 1) .meshTopology rfl (by
    intro changed isSaid
    cases isSaid with
    | tail _ isLater => cases isLater)
  exact ⟨(reads [faceCounts, .answered oneFace, .dirtied (.single .mesh)] _ _ [] rfl).1, fetched⟩

end DelegatedPrim

end LayeredScene
