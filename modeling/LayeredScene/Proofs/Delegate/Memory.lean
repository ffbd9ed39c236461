import LayeredScene.Delegate.Prim

/-! # What a delegated prim remembers

A prim of a delegate remembers five pieces of what the delegate answers. Its memory is coherent if
every piece that it remembers is what the delegate answers now. Readings keep it so, and a reading
asks for a piece only if the prim does not remember it.
-/

namespace LayeredScene

/-! ## Numbers that are not given out -/

def Store.Unsampled (store : Store) (number : Nat) : Prop :=
  ∀ sort, store.fetched sort number = .empty

structure Store.Unused (store : Store) (number : Nat) : Prop where
  toUnsampled : store.Unsampled number
  prototypes : store.prototypes number = .empty
  prims : store.prims number = .blank

theorem Store.Unsampled.of_same {store later : Store} {number : Nat}
    (unsampled : store.Unsampled number)
    (same : ∀ sort, later.fetched sort number = store.fetched sort number) :
    later.Unsampled number :=
  fun sort => (same sort).trans (unsampled sort)

def Store.IsOrderly (store : Store) : Prop :=
  ∀ ⦃number⦄, store.next ≤ number → store.Unused number

theorem Store.isOrderly_blank : Store.blank.IsOrderly := fun _ _ => ⟨fun _ => rfl, rfl, rfl⟩

structure Slot.IsSampled {α : Type} (slot : Slot α) (number : Nat) : Prop where
  empty : ∀ {store}, store.Unsampled number → (slot.look store).content = none
  next : ∀ store snapshot, (slot.put store snapshot).next = store.next
  asked : ∀ store snapshot, (slot.put store snapshot).asked = [] ++ store.asked
  unbracketed : ∀ store snapshot, (slot.put store snapshot).unbracketed = store.unbracketed
  prims : ∀ store snapshot, (slot.put store snapshot).prims = store.prims
  prototypes : ∀ store snapshot, (slot.put store snapshot).prototypes = store.prototypes
  unsampled : ∀ {store snapshot other}, other ≠ number → store.Unsampled other →
    (slot.put store snapshot).Unsampled other

theorem replaced_self {α : Type} (family : Nat → α) (number : Nat) (entry : α) :
    replaced family number entry number = entry :=
  if_pos rfl

theorem replaced_other {α : Type} {family : Nat → α} {number other : Nat} {entry : α}
    (different : other ≠ number) : replaced family number entry other = family other :=
  if_neg different

theorem Slot.isSampled_fetched (sort : Fetched) (number : Nat) :
    (Slot.fetched sort number).IsSampled number where
  empty unsampled := congrArg Snapshot.content (unsampled sort)
  next _ _ := rfl
  asked _ _ := rfl
  unbracketed _ _ := rfl
  prims _ _ := rfl
  prototypes _ _ := rfl
  unsampled different unsampled := unsampled.of_same fun other => by
    dsimp only [fetched]
    by_cases same : sort = other
    · subst same
      rw [dif_pos rfl]
      exact replaced_other different
    · rw [dif_neg same]

theorem Reads.remembered_of_some {α : Type} {slot : Slot α} {build : Reads α}
    {around : Surroundings} {store : Store} {content : α}
    (remembers : (slot.look store).content = some content) :
    Reads.remembered slot build around store = (content, store) := by
  simp only [Reads.remembered, remembers]

theorem Reads.remembered_of_none {α : Type} {slot : Slot α} {build : Reads α}
    {around : Surroundings} {store : Store} (forgot : (slot.look store).content = none) :
    Reads.remembered slot build around store =
      ((build around store).1, slot.put (build around store).2
        ((slot.look (build around store).2).built (build around store).1)) := by
  simp only [Reads.remembered, forgot]

/-! ## Pieces -/

/-- The pieces of what a delegate answers that a prim remembers. -/
inductive Piece
  | primvars
  | computedPrimvars
  | prototypes
  | meshTopology
  | curvesTopology
deriving DecidableEq

namespace Piece

@[reducible] def Content : Piece → Type
  | primvars => List PrimvarDescriptor
  | computedPrimvars => List ComputedPrimvarDescriptor
  | prototypes => List Path
  | meshTopology => MeshTopology
  | curvesTopology => CurvesTopology

def answered (answers : PrimAnswers) : (piece : Piece) → piece.Content
  | primvars =>
      (putAllByName PrimvarDescriptor.name
        (Interpolation.all.map answers.primvars).flatten).map (·.2)
  | computedPrimvars =>
      (putAllByName ComputedPrimvarDescriptor.name
        (Interpolation.all.map answers.computedPrimvars).flatten).map (·.2)
  | prototypes => answers.prototypes
  | meshTopology => answers.meshTopology
  | curvesTopology => answers.curvesTopology

/-- The place in the data of a prim that is made from a piece. -/
def place : Piece → Locator
  | primvars => .primvars
  | computedPrimvars => .computedPrimvars
  | prototypes => .instancerTopology
  | meshTopology => .mesh
  | curvesTopology => .curves

def query : Piece → Query
  | primvars => .primvars
  | computedPrimvars => .computedPrimvars
  | prototypes => .prototypes
  | meshTopology => .meshTopology
  | curvesTopology => .curvesTopology

/-- How often a delegate is asked when a piece is fetched: descriptions are asked for interpolation
by interpolation. -/
def questions : Piece → Nat
  | primvars | computedPrimvars => Interpolation.all.length
  | prototypes | meshTopology | curvesTopology => 1

theorem query_injective {piece other : Piece} (same : piece.query = other.query) :
    piece = other := by
  cases piece <;> cases other <;> first | rfl | contradiction

end Piece

def Query.isRemembered (query : Query) : Bool :=
  query = .primvars || query = .computedPrimvars || query = .prototypes || query = .meshTopology ||
    query = .curvesTopology

theorem Piece.isRemembered_query (piece : Piece) : piece.query.isRemembered = true := by
  cases piece <;> rfl

namespace DelegatedPrim

variable {prim : DelegatedPrim} {around : Surroundings} {start store later : Store}

def caches (prim : DelegatedPrim) : Piece → Bool
  | .meshTopology => prim.type = "mesh"
  | .curvesTopology => prim.type = "basisCurves"
  | _ => true

/-- What a prim remembers of a piece. The prototypes are remembered by the topology container that
the prim remembers. -/
def recalled (prim : DelegatedPrim) (store : Store) : (piece : Piece) → Option piece.Content
  | .primvars => (store.prims prim.number).primvars.content.map (·.content)
  | .computedPrimvars => (store.prims prim.number).computedPrimvars.content.map (·.content)
  | .prototypes =>
      (store.prims prim.number).instancerTopology.content.bind fun number =>
        (store.prototypes number).content
  | .meshTopology => (store.prims prim.number).meshTopology.content
  | .curvesTopology => (store.prims prim.number).curvesTopology.content

def timesAsked (prim : DelegatedPrim) (store : Store) (piece : Piece) : Nat :=
  store.asked.count (prim.delegate, piece.query)

/-- How often the delegate will have been asked about a piece as soon as it is remembered. -/
def timesDue (prim : DelegatedPrim) (store : Store) (piece : Piece) : Nat :=
  prim.timesAsked store piece + if (prim.recalled store piece).isSome then 0 else piece.questions

def answers (prim : DelegatedPrim) (around : Surroundings) : PrimAnswers :=
  around.delegates prim.delegate prim.path

def Recalls (prim : DelegatedPrim) (around : Surroundings) (store : Store) (piece : Piece) : Prop :=
  ∀ content, prim.recalled store piece = some content →
    content = piece.answered (prim.answers around)

/-- What holds of the memory of a prim whether or not it is up to date. -/
structure Tidy (prim : DelegatedPrim) (store : Store) : Prop where
  orderly : store.IsOrderly
  made : prim.number < store.next
  topology : ∀ number, (store.prims prim.number).instancerTopology.content = some number →
    number < store.next
  uncached : ∀ piece, prim.caches piece = false → prim.recalled store piece = none

/-- The memory of a prim is up to date. -/
structure Coherent (prim : DelegatedPrim) (around : Surroundings) (store : Store) : Prop
    extends prim.Tidy store where
  recalls : ∀ piece, prim.Recalls around store piece

structure Kept (prim : DelegatedPrim) (around : Surroundings) (start store : Store) : Prop
    extends prim.Coherent around store where
  reached : start.next ≤ store.next
  due : ∀ piece, prim.timesDue store piece ≤ prim.timesDue start piece

theorem Coherent.kept (coherent : prim.Coherent around store) : prim.Kept around store store :=
  { coherent with reached := Nat.le_refl _, due := fun _ => Nat.le_refl _ }

theorem recalled_of_same (prims : later.prims prim.number = store.prims prim.number)
    (prototypes : later.prototypes = store.prototypes) (piece : Piece) :
    prim.recalled later piece = prim.recalled store piece := by
  cases piece <;> simp only [recalled, prims, prototypes]

theorem timesAsked_of_questions {questions : List (Nat × Query)}
    (asked : later.asked = questions ++ store.asked)
    (unremembered : ∀ question ∈ questions, question.2.isRemembered = false) (piece : Piece) :
    prim.timesAsked later piece = prim.timesAsked store piece := by
  have notAsked : (prim.delegate, piece.query) ∉ questions := by
    intro isAsked
    have impossible := unremembered _ isAsked
    rw [piece.isRemembered_query] at impossible
    contradiction
  rw [timesAsked, timesAsked, asked, List.count_append, List.count_eq_zero.mpr notAsked,
    Nat.zero_add]

namespace Kept

theorem of_recalled (kept : prim.Kept around start store)
    (recalled : ∀ piece, prim.recalled later piece = prim.recalled store piece)
    {questions : List (Nat × Query)} (asked : later.asked = questions ++ store.asked)
    (unremembered : ∀ question ∈ questions, question.2.isRemembered = false)
    (unused : ∀ number, store.next ≤ number → store.Unused number → later.Unused number)
    (reached : store.next ≤ later.next)
    (topology : ∀ number, (later.prims prim.number).instancerTopology.content = some number →
      number < later.next) :
    prim.Kept around start later := by
  constructor
  case reached => exact Nat.le_trans kept.reached reached
  case due =>
    intro piece
    rw [timesDue, timesAsked_of_questions asked unremembered, recalled]
    exact kept.due piece
  constructor
  case recalls =>
    intro piece content isRecalled
    rw [recalled] at isRecalled
    exact kept.recalls piece content isRecalled
  constructor
  case orderly =>
    intro number beyond
    have stillBeyond := Nat.le_trans reached beyond
    exact unused number stillBeyond (kept.orderly stillBeyond)
  case made => exact Nat.lt_of_lt_of_le kept.made reached
  case topology => exact topology
  case uncached =>
    intro piece isUncached
    rw [recalled]
    exact kept.uncached piece isUncached

theorem of_same (kept : prim.Kept around start store)
    (unsampled : ∀ number, store.next ≤ number → store.Unsampled number → later.Unsampled number)
    (reached : store.next ≤ later.next)
    (prims : later.prims = store.prims) (prototypes : later.prototypes = store.prototypes)
    {questions : List (Nat × Query)} (asked : later.asked = questions ++ store.asked)
    (unremembered : ∀ question ∈ questions, question.2.isRemembered = false) :
    prim.Kept around start later := by
  refine kept.of_recalled (recalled_of_same (congrFun prims prim.number) prototypes) asked
    unremembered ?_ reached ?_
  · intro number beyond unused
    exact ⟨unsampled number beyond unused.toUnsampled,
      (congrFun prototypes number).trans unused.prototypes,
      (congrFun prims number).trans unused.prims⟩
  · intro number isKept
    rw [prims] at isKept
    exact Nat.lt_of_lt_of_le (kept.topology number isKept) reached

theorem asked (kept : prim.Kept around start store) {questions : List (Nat × Query)}
    (unremembered : ∀ question ∈ questions, question.2.isRemembered = false) :
    prim.Kept around start { store with asked := questions ++ store.asked } :=
  kept.of_same (fun _ _ unsampled => unsampled.of_same fun _ => rfl) (Nat.le_refl _) rfl rfl rfl
    unremembered

theorem unbracketed (kept : prim.Kept around start store) :
    prim.Kept around start { store with unbracketed := true } :=
  kept.of_same (fun _ _ unsampled => unsampled.of_same fun _ => rfl) (Nat.le_refl _) rfl rfl
    (List.nil_append _).symm nofun

theorem newNumber (kept : prim.Kept around start store) :
    prim.Kept around start { store with next := store.next + 1 } :=
  kept.of_same (fun _ _ unsampled => unsampled.of_same fun _ => rfl) (Nat.le_succ _) rfl rfl
    (List.nil_append _).symm nofun

theorem fetched (kept : prim.Kept around start store) {piece : Piece}
    (isCached : prim.caches piece = true) (unknown : prim.recalled store piece = none)
    (known : prim.recalled later piece = some (piece.answered (prim.answers around)))
    (others : ∀ other, other ≠ piece → prim.recalled later other = prim.recalled store other)
    (asked : later.asked =
      List.replicate piece.questions (prim.delegate, piece.query) ++ store.asked)
    (unused : ∀ number, store.next ≤ number → store.Unused number → later.Unused number)
    (reached : store.next ≤ later.next)
    (topology : (later.prims prim.number).instancerTopology =
      (store.prims prim.number).instancerTopology) :
    prim.Kept around start later := by
  constructor
  case reached => exact Nat.le_trans kept.reached reached
  case due =>
    intro other
    refine Nat.le_trans ?_ (kept.due other)
    by_cases same : other = piece
    · -- the questions asked are those that were still due for a piece not remembered
      subst same
      simp [timesDue, timesAsked, asked, known, unknown, Nat.add_comm]
    · have different : (prim.delegate, other.query) ∉
          List.replicate piece.questions (prim.delegate, piece.query) := by
        intro isAsked
        exact same (Piece.query_injective (congrArg Prod.snd (List.eq_of_mem_replicate isAsked)))
      have unpaid : prim.timesDue later other = prim.timesDue store other := by
        rw [timesDue, timesDue, timesAsked, timesAsked, others other same, asked,
          List.count_append, List.count_eq_zero.mpr different, Nat.zero_add]
      exact Nat.le_of_eq unpaid
  constructor
  case recalls =>
    intro other content isRecalled
    by_cases same : other = piece
    · subst same
      rw [known] at isRecalled
      exact (Option.some.inj isRecalled).symm
    · rw [others other same] at isRecalled
      exact kept.recalls other content isRecalled
  constructor
  case orderly =>
    intro number beyond
    have stillBeyond := Nat.le_trans reached beyond
    exact unused number stillBeyond (kept.orderly stillBeyond)
  case made => exact Nat.lt_of_lt_of_le kept.made reached
  case topology =>
    intro number isKept
    rw [topology] at isKept
    exact Nat.lt_of_lt_of_le (kept.topology number isKept) reached
  case uncached =>
    intro other isUncached
    have different : other ≠ piece := by
      rintro rfl
      rw [isCached] at isUncached
      contradiction
    rw [others other different]
    exact kept.uncached other isUncached

theorem put {α : Type} {slot : Slot α} {number : Nat} (kept : prim.Kept around start store)
    (sampled : slot.IsSampled number) (given : number < store.next) (snapshot : Snapshot α) :
    prim.Kept around start (slot.put store snapshot) :=
  kept.of_same (fun _ beyond => sampled.unsampled (Nat.ne_of_gt (Nat.lt_of_lt_of_le given beyond)))
    (Nat.le_of_eq (sampled.next store snapshot).symm) (sampled.prims store snapshot)
    (sampled.prototypes store snapshot) (sampled.asked store snapshot) nofun

end Kept

/-! ## Fetching pieces -/

/-- A reading that keeps the memory of a prim up to date and fetches nothing for objects made by
readings. -/
structure Onward (prim : DelegatedPrim) (around : Surroundings) (start store later : Store) : Prop
    where
  kept : prim.Kept around start later
  unbracketed : later.unbracketed = store.unbracketed
  unsampled : ∀ {number}, store.Unsampled number → later.Unsampled number

theorem Kept.onward (kept : prim.Kept around start store) : prim.Onward around start store store :=
  ⟨kept, rfl, id⟩

theorem Kept.fetchedInto (kept : prim.Kept around start store) {piece : Piece}
    {memory : PrimMemory} (prims : later.prims = replaced store.prims prim.number memory)
    (prototypes : later.prototypes = store.prototypes)
    (topology : memory.instancerTopology = (store.prims prim.number).instancerTopology)
    (isCached : prim.caches piece = true) (unknown : prim.recalled store piece = none)
    (known : prim.recalled later piece = some (piece.answered (prim.answers around)))
    (others : ∀ other, other ≠ piece → prim.recalled later other = prim.recalled store other)
    (asked : later.asked =
      List.replicate piece.questions (prim.delegate, piece.query) ++ store.asked)
    (reached : store.next ≤ later.next) (unbracketed : later.unbracketed = store.unbracketed)
    (unsampled : ∀ {number}, store.Unsampled number → later.Unsampled number) :
    prim.Onward around start store later := by
  refine ⟨?_, unbracketed, unsampled⟩
  refine kept.fetched isCached unknown known others asked ?_ reached ?_
  · intro number beyond unused
    have different : number ≠ prim.number := Nat.ne_of_gt (Nat.lt_of_lt_of_le kept.made beyond)
    refine ⟨unsampled unused.toUnsampled, (congrFun prototypes number).trans unused.prototypes, ?_⟩
    rw [prims, replaced_other different]
    exact unused.prims
  · rw [prims, replaced_self]
    exact topology

theorem Kept.remembered (kept : prim.Kept around start store) {α : Type} {slot : Slot α}
    {build : Reads α} (piece : Piece) (content : α → piece.Content)
    (recalls : prim.recalled store piece = (slot.look store).content.map content)
    (fetches : prim.recalled store piece = none →
      content (build around store).1 = piece.answered (prim.answers around) ∧
        prim.Onward around start store (slot.put (build around store).2
          ((slot.look (build around store).2).built (build around store).1))) :
    content (Reads.remembered slot build around store).1 = piece.answered (prim.answers around) ∧
      prim.Onward around start store (Reads.remembered slot build around store).2 := by
  cases remembers : (slot.look store).content with
  | some remembered =>
      rw [remembers, Option.map_some] at recalls
      rw [Reads.remembered_of_some remembers]
      exact ⟨kept.recalls piece _ recalls, kept.onward⟩
  | none =>
      rw [remembers, Option.map_none] at recalls
      rw [Reads.remembered_of_none remembers]
      exact fetches recalls

def describedPrimvars (prim : DelegatedPrim) : Reads (Numbered (List PrimvarDescriptor)) :=
  Reads.remembered (.primvars prim.number) do
    let descriptors ← prim.describePrimvars
    return ⟨← Reads.newNumber, descriptors⟩

theorem Kept.describedPrimvars (kept : prim.Kept around start store) :
    (prim.describedPrimvars around store).1.content =
        Piece.primvars.answered (prim.answers around) ∧
      prim.Onward around start store (prim.describedPrimvars around store).2 := by
  refine kept.remembered .primvars Numbered.content rfl fun unknown => ⟨rfl, ?_⟩
  refine kept.fetchedInto rfl rfl rfl rfl unknown ?_ ?_ rfl (Nat.le_succ _) rfl
    fun unsampled => unsampled.of_same fun _ => rfl
  · simp only [recalled, Slot.primvars, Slot.ofPrim, replaced_self]
    rfl
  · intro other different
    cases other
    case primvars => contradiction
    all_goals
      simp only [recalled, Slot.primvars, Slot.ofPrim, replaced_self]
      rfl

def describedComputedPrimvars (prim : DelegatedPrim) :
    Reads (Numbered (List ComputedPrimvarDescriptor)) :=
  Reads.remembered (.computedPrimvars prim.number) do
    let descriptors ← prim.describeComputedPrimvars
    return ⟨← Reads.newNumber, descriptors⟩

theorem Kept.describedComputedPrimvars (kept : prim.Kept around start store) :
    (prim.describedComputedPrimvars around store).1.content =
        Piece.computedPrimvars.answered (prim.answers around) ∧
      prim.Onward around start store (prim.describedComputedPrimvars around store).2 := by
  refine kept.remembered .computedPrimvars Numbered.content rfl fun unknown => ⟨rfl, ?_⟩
  refine kept.fetchedInto rfl rfl rfl rfl unknown ?_ ?_ rfl (Nat.le_succ _) rfl
    fun unsampled => unsampled.of_same fun _ => rfl
  · simp only [recalled, Slot.computedPrimvars, Slot.ofPrim, replaced_self]
    rfl
  · intro other different
    cases other
    case computedPrimvars => contradiction
    all_goals
      simp only [recalled, Slot.computedPrimvars, Slot.ofPrim, replaced_self]
      rfl

theorem Kept.meshTopology (kept : prim.Kept around start store) (isMesh : prim.type = "mesh") :
    (prim.meshTopology around store).1 = (prim.answers around).meshTopology ∧
      prim.Onward around start store (prim.meshTopology around store).2 := by
  have isCached : prim.caches .meshTopology = true := decide_eq_true isMesh
  refine kept.remembered .meshTopology id Option.map_id_apply.symm fun unknown => ⟨rfl, ?_⟩
  refine kept.fetchedInto rfl rfl rfl isCached unknown ?_ ?_ rfl (Nat.le_refl _) rfl
    fun unsampled => unsampled.of_same fun _ => rfl
  · simp only [recalled, Slot.meshTopology, Slot.ofPrim, replaced_self]
    rfl
  · intro other different
    cases other
    case meshTopology => contradiction
    all_goals
      simp only [recalled, Slot.meshTopology, Slot.ofPrim, replaced_self]
      rfl

theorem Kept.curvesTopology (kept : prim.Kept around start store)
    (isCurves : prim.type = "basisCurves") :
    (prim.curvesTopology around store).1 = (prim.answers around).curvesTopology ∧
      prim.Onward around start store (prim.curvesTopology around store).2 := by
  have isCached : prim.caches .curvesTopology = true := decide_eq_true isCurves
  refine kept.remembered .curvesTopology id Option.map_id_apply.symm fun unknown => ⟨rfl, ?_⟩
  refine kept.fetchedInto rfl rfl rfl isCached unknown ?_ ?_ rfl (Nat.le_refl _) rfl
    fun unsampled => unsampled.of_same fun _ => rfl
  · simp only [recalled, Slot.curvesTopology, Slot.ofPrim, replaced_self]
    rfl
  · intro other different
    cases other
    case curvesTopology => contradiction
    all_goals
      simp only [recalled, Slot.curvesTopology, Slot.ofPrim, replaced_self]
      rfl

def topologyNumber (prim : DelegatedPrim) : Reads Nat :=
  Reads.remembered (.instancerTopology prim.number) Reads.newNumber

theorem Kept.topologyNumber (kept : prim.Kept around start store) :
    ((prim.topologyNumber around store).2.prims prim.number).instancerTopology.content =
        some (prim.topologyNumber around store).1 ∧
      prim.Onward around start store (prim.topologyNumber around store).2 := by
  cases remembers : (store.prims prim.number).instancerTopology.content with
  | some number =>
      rw [DelegatedPrim.topologyNumber, Reads.remembered_of_some remembers]
      exact ⟨remembers, kept.onward⟩
  | none =>
      -- nothing was fetched under the new number, so the prim recalls no prototypes, as before
      have unfetched : (store.prototypes store.next).content = none :=
        congrArg Snapshot.content (kept.orderly (Nat.le_refl _)).prototypes
      rw [DelegatedPrim.topologyNumber, Reads.remembered_of_none remembers]
      refine ⟨?_, ?_, rfl, fun unsampled => unsampled.of_same fun _ => rfl⟩
      · simp only [Slot.instancerTopology, Slot.ofPrim, replaced_self]
        rfl
      refine kept.of_recalled ?_ (List.nil_append _).symm nofun ?_ (Nat.le_succ _) ?_
      · intro piece
        cases piece
        case prototypes =>
          simp only [recalled, remembers, Slot.instancerTopology, Slot.ofPrim, replaced_self]
          exact unfetched
        all_goals
          simp only [recalled, Slot.instancerTopology, Slot.ofPrim, replaced_self]
          rfl
      · intro number beyond unused
        have different : number ≠ prim.number := Nat.ne_of_gt (Nat.lt_of_lt_of_le kept.made beyond)
        exact ⟨unused.toUnsampled.of_same fun _ => rfl, unused.prototypes,
          (replaced_other different).trans unused.prims⟩
      · intro number isKept
        simp only [Slot.instancerTopology, Slot.ofPrim, replaced_self] at isKept
        cases isKept
        exact Nat.lt_succ_self _

theorem Kept.prototypesOnce (kept : prim.Kept around start store) {number : Nat}
    (isKept : (store.prims prim.number).instancerTopology.content = some number) :
    (prim.prototypesOnce number around store).1 = (prim.answers around).prototypes ∧
      prim.Onward around start store (prim.prototypesOnce number around store).2 := by
  have recalls : prim.recalled store .prototypes = (store.prototypes number).content.map id := by
    rw [recalled, isKept, Option.bind_some, Option.map_id_apply]
  refine kept.remembered .prototypes id recalls fun unknown => ?_
  refine ⟨rfl, ?_, rfl, fun unsampled => unsampled.of_same fun _ => rfl⟩
  refine kept.fetched rfl unknown ?_ ?_ rfl ?_ (Nat.le_refl _) rfl
  · have keeps : ((prim.ask .prototypes (·.prototypes) around store).2.prims
        prim.number).instancerTopology.content = some number := isKept
    simp only [recalled, Slot.prototypes, keeps, Option.bind_some, replaced_self]
    rfl
  · intro other different
    cases other
    case prototypes => contradiction
    all_goals rfl
  · intro other beyond unused
    have different : other ≠ number :=
      Nat.ne_of_gt (Nat.lt_of_lt_of_le (kept.topology number isKept) beyond)
    exact ⟨unused.toUnsampled.of_same fun _ => rfl,
      (replaced_other different).trans unused.prototypes, unused.prims⟩

/-! ## Forgetting pieces -/

theorem recalled_dirtied (prim : DelegatedPrim) (changed : LocatorSet) (store : Store)
    (piece : Piece) :
    prim.recalled (prim.dirtied changed store) piece =
      if changed.meetsLocator piece.place then none else prim.recalled store piece := by
  cases meets : changed.meetsLocator piece.place
  all_goals
    cases piece
    all_goals
      simp only [Piece.place] at meets
      simp only [recalled, dirtied, forget, replaced_self, meets]
      rfl

theorem Tidy.dirtied (tidy : prim.Tidy store) (changed : LocatorSet) :
    prim.Tidy (prim.dirtied changed store) := by
  constructor
  case orderly =>
    intro number beyond
    have unused := tidy.orderly beyond
    have different : number ≠ prim.number := Nat.ne_of_gt (Nat.lt_of_lt_of_le tidy.made beyond)
    exact ⟨unused.toUnsampled.of_same fun _ => rfl, unused.prototypes,
      (replaced_other different).trans unused.prims⟩
  case made => exact tidy.made
  case topology =>
    intro number isKept
    simp only [DelegatedPrim.dirtied, forget, replaced_self] at isKept
    split at isKept
    · contradiction
    · exact tidy.topology number isKept
  case uncached =>
    intro piece isUncached
    rw [recalled_dirtied, tidy.uncached piece isUncached, ite_self]

theorem timesDue_dirtied {changed : LocatorSet} {piece : Piece}
    (apart : changed.meetsLocator piece.place = false) :
    prim.timesDue (prim.dirtied changed store) piece = prim.timesDue store piece := by
  rw [timesDue, timesDue, recalled_dirtied, apart]
  rfl

theorem contains_rememberedPlaces {piece : Piece} (isCached : prim.caches piece = true) :
    (rememberedPlaces prim.type).contains piece.place = true := by
  refine LocatorSet.contains_ofList.mpr ⟨piece.place, ?_, Locator.liesUnder_self _⟩
  cases piece
  case meshTopology =>
    have isMesh : prim.type = "mesh" := of_decide_eq_true isCached
    simp [Piece.place, isMesh]
  case curvesTopology =>
    have isCurves : prim.type = "basisCurves" := of_decide_eq_true isCached
    simp [Piece.place, isCurves]
  all_goals simp [Piece.place]

theorem invalidated_of_none {α : Type} {snapshot : Snapshot α} {touched : Bool}
    (empty : touched = true → snapshot.content = none) :
    (if touched then snapshot.invalidate else snapshot) = snapshot := by
  split
  · rename_i isTouched
    rw [Snapshot.invalidate, ← empty isTouched]
  · rfl

theorem Tidy.dirtied_of_apart {changed : LocatorSet} (tidy : prim.Tidy store)
    (apart : changed.meets (rememberedPlaces prim.type) = false) :
    prim.dirtied changed store = store := by
  have uncached : ∀ piece, changed.meetsLocator piece.place = true → prim.caches piece = false := by
    intro piece touches
    rw [← Bool.not_eq_true] at apart ⊢
    exact fun isCached =>
      apart (LocatorSet.meets_of_meetsLocator touches (contains_rememberedPlaces isCached))
  have primvars : (forget (store.prims prim.number) changed).primvars =
      (store.prims prim.number).primvars :=
    invalidated_of_none fun touches => absurd (uncached .primvars touches) Bool.false_ne_true.symm
  have computedPrimvars : (forget (store.prims prim.number) changed).computedPrimvars =
      (store.prims prim.number).computedPrimvars :=
    invalidated_of_none fun touches =>
      absurd (uncached .computedPrimvars touches) Bool.false_ne_true.symm
  have instancerTopology : (forget (store.prims prim.number) changed).instancerTopology =
      (store.prims prim.number).instancerTopology :=
    invalidated_of_none fun touches => absurd (uncached .prototypes touches) Bool.false_ne_true.symm
  have meshTopology : (forget (store.prims prim.number) changed).meshTopology =
      (store.prims prim.number).meshTopology :=
    invalidated_of_none fun touches => tidy.uncached .meshTopology (uncached .meshTopology touches)
  have curvesTopology : (forget (store.prims prim.number) changed).curvesTopology =
      (store.prims prim.number).curvesTopology :=
    invalidated_of_none fun touches =>
      tidy.uncached .curvesTopology (uncached .curvesTopology touches)
  have same : forget (store.prims prim.number) changed = store.prims prim.number := by
    rcases memory : store.prims prim.number with ⟨_, _, _, _, _⟩
    rw [memory] at primvars computedPrimvars instancerTopology meshTopology curvesTopology
    exact PrimMemory.mk.injEq .. ▸ ⟨primvars, computedPrimvars, instancerTopology, meshTopology,
      curvesTopology⟩
  have replacedSame : replaced store.prims prim.number (store.prims prim.number) = store.prims := by
    funext number
    by_cases isPrim : number = prim.number
    · rw [isPrim, replaced_self]
    · exact replaced_other isPrim
  rw [DelegatedPrim.dirtied, same, replacedSame]

end DelegatedPrim

end LayeredScene
