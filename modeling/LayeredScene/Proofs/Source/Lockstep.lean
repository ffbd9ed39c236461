import LayeredScene.Source.Walk

/-! # Readings in lockstep

Two readings are compared by what they yield and what they leave in the store, each in surroundings
of its own. The stores need not be the same: they stand in a relation before, and what is yielded
and the stores stand in another one afterwards. Readings made of parts are in lockstep if their
parts are.
-/

namespace LayeredScene

variable {α β γ δ : Type} {around other : Surroundings}

/-- From related stores, two readings yield related results and leave related stores. -/
def Lockstep (around other : Surroundings) (start : Store → Store → Prop) (first : Reads α)
    (second : Reads β) (finish : α → β → Store → Store → Prop) : Prop :=
  ∀ store twin, start store twin →
    finish (first around store).1 (second other twin).1 (first around store).2
      (second other twin).2

namespace Lockstep

variable {start : Store → Store → Prop} {finish : α → β → Store → Store → Prop}
variable {first : Reads α} {second : Reads β}

theorem pure {result : α} {twinResult : β}
    (related : ∀ store twin, start store twin → finish result twinResult store twin) :
    Lockstep around other start (Pure.pure result) (Pure.pure twinResult) finish :=
  related

theorem bind {middle : α → β → Store → Store → Prop} {last : γ → δ → Store → Store → Prop}
    {proceed : α → Reads γ} {proceedOther : β → Reads δ}
    (lockstep : Lockstep around other start first second middle)
    (next : ∀ result twinResult,
      Lockstep around other (middle result twinResult) (proceed result) (proceedOther twinResult)
        last) :
    Lockstep around other start (first >>= proceed) (second >>= proceedOther) last :=
  fun store twin related => next _ _ _ _ (lockstep store twin related)

theorem map {last : γ → δ → Store → Store → Prop} {use : α → γ} {useOther : β → δ}
    (lockstep : Lockstep around other start first second finish)
    (related : ∀ result twinResult store twin, finish result twinResult store twin →
      last (use result) (useOther twinResult) store twin) :
    Lockstep around other start (use <$> first) (useOther <$> second) last :=
  fun store twin given => related _ _ _ _ (lockstep store twin given)

theorem imp {last : α → β → Store → Store → Prop}
    (lockstep : Lockstep around other start first second finish)
    (weaker : ∀ result twinResult store twin, finish result twinResult store twin →
      last result twinResult store twin) :
    Lockstep around other start first second last :=
  fun store twin related => weaker _ _ _ _ (lockstep store twin related)

theorem of_start {sooner : Store → Store → Prop}
    (lockstep : Lockstep around other start first second finish)
    (stronger : ∀ store twin, sooner store twin → start store twin) :
    Lockstep around other sooner first second finish :=
  fun store twin related => lockstep store twin (stronger store twin related)

end Lockstep

/-! ## The same from both -/

def Alike (around other : Surroundings) (together : Store → Store → Prop)
    (first second : Reads α) : Prop :=
  Lockstep around other together first second fun result twinResult store twin =>
    result = twinResult ∧ together store twin

namespace Alike

variable {together : Store → Store → Prop} {first second : Reads α}

theorem pure (result : α) : Alike around other together (Pure.pure result) (Pure.pure result) :=
  fun _ _ related => ⟨rfl, related⟩

theorem reads (alike : Alike around other together first second) {store after twin : Store}
    {result : α} (stores : together store twin) (isRead : first around store = (result, after)) :
    ∃ twinAfter, second other twin = (result, twinAfter) ∧ together after twinAfter := by
  rcases alike store twin stores with ⟨same, related⟩
  rw [isRead] at same related
  exact ⟨(second other twin).2, Prod.ext same.symm rfl, related⟩

theorem lockstep_bind {last : β → γ → Store → Store → Prop} {proceed : α → Reads β}
    {proceedOther : α → Reads γ} (alike : Alike around other together first second)
    (next : ∀ result,
      Lockstep around other together (proceed result) (proceedOther result) last) :
    Lockstep around other together (first >>= proceed) (second >>= proceedOther) last := by
  refine Lockstep.bind alike fun result twinResult store twin given => ?_
  rcases given with ⟨rfl, related⟩
  exact next result store twin related

theorem bind {proceed proceedOther : α → Reads β} (alike : Alike around other together first second)
    (next : ∀ result, Alike around other together (proceed result) (proceedOther result)) :
    Alike around other together (first >>= proceed) (second >>= proceedOther) :=
  alike.lockstep_bind next

theorem map (use : α → β) (alike : Alike around other together first second) :
    Alike around other together (use <$> first) (use <$> second) :=
  alike.bind fun result => .pure (use result)

end Alike

/-! ## Readings that settle -/

def Among (sort : Store → Prop) (store twin : Store) : Prop := sort store ∧ sort twin

/-- From all stores of a sort a reading yields one result, and leaves a store of that sort. -/
def Settles (around : Surroundings) (sort : Store → Prop) (reading : Reads α)
    (result : α) : Prop :=
  ∀ store, sort store → (reading around store).1 = result ∧ sort (reading around store).2

namespace Settles

variable {sort : Store → Prop} {first : Reads α} {result : α}

theorem pure (result : α) : Settles around sort (pure result) result :=
  fun _ inSort => ⟨rfl, inSort⟩

theorem bind {next : α → Reads β} {last : β} (settles : Settles around sort first result)
    (nextSettles : Settles around sort (next result) last) :
    Settles around sort (first >>= next) last := by
  intro store inSort
  rcases settles store inSort with ⟨isResult, stillInSort⟩
  have final := nextSettles _ stillInSort
  rw [← isResult] at final
  exact final

theorem map {last : β} {use : α → β} (settles : Settles around sort first result)
    (used : use result = last) : Settles around sort (use <$> first) last := by
  rw [← used]
  exact settles.bind (.pure _)

theorem each {read : α → Reads β} {result : α → β} {items : List α}
    (settle : ∀ item ∈ items, Settles around sort (read item) (result item)) :
    Settles around sort (Reads.each read items) (items.map result) := by
  induction items with
  | nil => exact pure []
  | cons item items induction =>
      have itself := settle item List.mem_cons_self
      have others := induction fun other member => settle other (List.mem_cons_of_mem item member)
      exact itself.bind (others.bind (pure _))

theorem of_alike (alike : Alike around around (Among sort) first first) {store after : Store}
    (inSort : sort store) (isRead : first around store = (result, after)) :
    Settles around sort first result ∧ sort after := by
  rcases alike store store ⟨inSort, inSort⟩ with ⟨_, stillInSort, _⟩
  rw [isRead] at stillInSort
  refine ⟨fun other otherInSort => ?_, stillInSort⟩
  rcases alike other store ⟨otherInSort, inSort⟩ with ⟨same, afterInSort, _⟩
  rw [isRead] at same
  exact ⟨same, afterInSort⟩

theorem exists_of_alike (alike : Alike around around (Among sort) first first) {store : Store}
    (inSort : sort store) : ∃ result, Settles around sort first result :=
  ⟨(first around store).1, (of_alike alike inSort rfl).1⟩

end Settles

/-! ## Sampled sources at places -/

structure Sampled.Agrees (around other : Surroundings) (together : Store → Store → Prop)
    (source twin : Sampled) : Prop where
  value : ∀ time, Alike around other together (source.value time) (twin.value time)
  times : ∀ start finish,
    Alike around other together (source.times start finish) (twin.times start finish)

/-- Two containers have no sampled source at a place, or both have one, and these agree. -/
def Container.AgreesAt (around other : Surroundings) (together : Store → Store → Prop)
    (container twin : Container) (place : Locator) : Prop :=
  Lockstep around other together (container.findSampled place) (twin.findSampled place)
    fun found twinFound store twinStore =>
      Option.Rel (Sampled.Agrees around other together) found twinFound ∧ together store twinStore

theorem Container.AgreesAt.lockstep_bind {together : Store → Store → Prop}
    {container twin : Container} {place : Locator} {last : α → β → Store → Store → Prop}
    {proceed : Option Sampled → Reads α} {proceedOther : Option Sampled → Reads β}
    (agrees : container.AgreesAt around other together twin place)
    (missing : Lockstep around other together (proceed none) (proceedOther none) last)
    (present : ∀ source twinSource, Sampled.Agrees around other together source twinSource →
      Lockstep around other together (proceed (some source)) (proceedOther (some twinSource))
        last) :
    Lockstep around other together (container.findSampled place >>= proceed)
      (twin.findSampled place >>= proceedOther) last := by
  refine Lockstep.bind agrees fun found twinFound store twinStore given => ?_
  rcases given with ⟨related, stores⟩
  cases related with
  | none => exact missing store twinStore stores
  | some sources => exact present _ _ sources store twinStore stores

theorem Container.AgreesAt.bind {together : Store → Store → Prop} {container twin : Container}
    {place : Locator} {proceed proceedOther : Option Sampled → Reads α}
    (agrees : container.AgreesAt around other together twin place)
    (missing : Alike around other together (proceed none) (proceedOther none))
    (present : ∀ source twinSource, Sampled.Agrees around other together source twinSource →
      Alike around other together (proceed (some source)) (proceedOther (some twinSource))) :
    Alike around other together (container.findSampled place >>= proceed)
      (twin.findSampled place >>= proceedOther) :=
  agrees.lockstep_bind missing present

end LayeredScene
