import LayeredScene.Proofs.Network.StoredPrims
import LayeredScene.Proofs.Network.Sent
import LayeredScene.Proofs.Scene.Globals

/-! # Following globals

A filter that publishes globals says of each setting which member it changes, unless the setting
holds already. Whoever listens can therefore keep what was read of the globals, and read only those
members again that are said to have changed, whatever the scene below the filter has in its own
data. -/

namespace LayeredScene

def SceneGlobals.announcement (globals : SceneGlobals) (setting : GlobalSetting) : List Batch :=
  if globals.holds setting then []
  else [.dirtied [(.root, .single (.sceneGlobal setting.member))]]

def Batch.dirtiesGlobal (member : Token) : Batch → Bool
  | .dirtied entries =>
      entries.any fun entry => entry.1.isRoot && entry.2.contains (.sceneGlobal member)
  | _ => false

theorem contains_single_sceneGlobal {member other : Token} :
    (LocatorSet.single (.sceneGlobal member)).contains (.sceneGlobal other) = true ↔
      other = member := by
  rw [LocatorSet.single, LocatorSet.contains_insert, Locator.liesUnder_iff]
  simp [LocatorSet.contains, LocatorSet.empty, Locator.sceneGlobal, Locator.sceneGlobals,
    Locator.append, eq_comm]

theorem SceneGlobals.announcement_dirties (globals : SceneGlobals) (setting : GlobalSetting)
    (member : Token) :
    (globals.announcement setting).any (·.dirtiesGlobal member) = true ↔
      globals.holds setting = false ∧ member = setting.member := by
  rw [announcement]
  cases globals.holds setting with
  | true => simp
  | false =>
      rw [if_neg Bool.false_ne_true, ← contains_single_sceneGlobal]
      simp [Batch.dirtiesGlobal, Path.isRoot, Path.root]

namespace Network

variable {network : Network} {number listener : Nat} {globals : SceneGlobals}

def readGlobal (network : Network) (number : Nat) (member : Token) : Option Value × Network :=
  network.read (DeclaredGlobals.of (network.scene number) .root >>= (·.value? member))

theorem surroundings_globals (network : Network) :
    network.surroundings.globals = network.globals := by
  rw [surroundings]
  cases network.levels <;> rfl

/-- A listener listens to an index that publishes globals over another one, in a network without
cycles. -/
structure PublishesGlobals (network : Network) (listener number : Nat) (globals : SceneGlobals) :
    Prop where
  layered : ∃ rank, network.Layered rank
  index : ∃ input object, (network.node number).index = .filter input (.globals object globals)
  listens : .listener listener ∈ network.liveObservers number

namespace PublishesGlobals

theorem of_sameShape {before after : Network} {changed : SceneGlobals}
    (publishes : before.PublishesGlobals listener number globals) (same : before.SameShape after)
    (index : ∃ input object, (after.node number).index = .filter input (.globals object changed)) :
    after.PublishesGlobals listener number changed where
  layered := publishes.layered.imp fun _ layered => layered.of_sameShape same
  index := index
  listens := by
    rw [same.liveObservers]
    exact publishes.listens

theorem of_sameWiring {after : Network} (publishes : network.PublishesGlobals listener number globals)
    (same : network.SameWiring after) : after.PublishesGlobals listener number globals := by
  apply publishes.of_sameShape same.sameShape
  rw [same.node]
  exact publishes.index

theorem readGlobal_eq (publishes : network.PublishesGlobals listener number globals)
    (member : Token) : (network.readGlobal number member).1 = globals.value? member := by
  rcases publishes with ⟨⟨rank, layered⟩, ⟨input, object, index⟩, _⟩
  have shown : network.scene number = (network.scene input).withGlobals object number :=
    layered.scene_filter index
  have known : network.surroundings.globals number = globals := by
    rw [surroundings_globals, Network.globals, index]
  rw [readGlobal, shown, DeclaredGlobals.of_withGlobals]
  exact (DeclaredGlobals.value?_published _ _ _).trans (by rw [known])

theorem sends_setGlobal (publishes : network.PublishesGlobals listener number globals)
    (setting : GlobalSetting) :
    ∃ changed, changed.PublishesGlobals listener number (globals.apply setting) ∧
      changed.heard = network.heard ∧
      network.setGlobal number setting =
        (globals.announcement setting).foldl (fun network batch => network.send number batch)
          changed := by
  rcases publishes.index with ⟨input, object, index⟩
  have inside := inside_of_input (mem_inputs_of_filter index)
  have shape : network.SameShape (network.setIndex number
      (.filter input (.globals object (globals.apply setting)))) := by
    apply sameShape_setIndex inside
    rw [index]
    rfl
  refine ⟨_, publishes.of_sameShape shape ⟨input, object, ?_⟩, rfl, ?_⟩
  · rw [index_setIndex inside, if_pos rfl]
  · simp only [Network.setGlobal, index, SceneGlobals.announcement]
    cases globals.holds setting <;> rfl

theorem setGlobal (publishes : network.PublishesGlobals listener number globals)
    (setting : GlobalSetting) :
    (network.setGlobal number setting).PublishesGlobals listener number (globals.apply setting) ∧
      (network.setGlobal number setting).heardFrom listener number =
        network.heardFrom listener number ++ globals.announcement setting := by
  rcases publishes.sends_setGlobal setting with ⟨changed, changedPublishes, unheard, sends⟩
  rw [sends, ← heardFrom_of_unheard unheard, SceneGlobals.announcement]
  cases globals.holds setting with
  | true => exact ⟨changedPublishes, (List.append_nil _).symm⟩
  | false =>
      have wired := sameWiring_send changed number
        (.dirtied [(.root, .single (.sceneGlobal setting.member))])
      have inside : number < changed.levels := by
        rcases changedPublishes.index with ⟨input, object, index⟩
        exact inside_of_input (mem_inputs_of_filter index)
      rcases changedPublishes.layered with ⟨rank, layered⟩
      constructor
      · exact changedPublishes.of_sameWiring wired
      · rw [if_neg Bool.false_ne_true, List.foldl_cons, List.foldl_nil]
        exact layered.heardFrom_send_self inside changedPublishes.listens rfl

end PublishesGlobals

/-! ## Keeping what was read -/

structure GlobalsKept where
  network : Network
  kept : Token → Option Value

namespace GlobalsKept

def reread (number : Nat) (state : GlobalsKept) (member : Token) : GlobalsKept :=
  let answer := state.network.readGlobal number member
  ⟨answer.2, fun other => if other = member then answer.1 else state.kept other⟩

def afterHearing (state : GlobalsKept) (number : Nat) (heard : List Batch) : GlobalsKept :=
  (SceneGlobals.members.filter fun member => heard.any (·.dirtiesGlobal member)).foldl
    (reread number) state

def afterSetting (listener number : Nat) (state : GlobalsKept) (setting : GlobalSetting) :
    GlobalsKept :=
  let after := state.network.setGlobal number setting
  let heard := (after.heardFrom listener number).drop
    (state.network.heardFrom listener number).length
  (GlobalsKept.mk after state.kept).afterHearing number heard

end GlobalsKept

def keepingGlobals (network : Network) (listener number : Nat) (settings : List GlobalSetting) :
    GlobalsKept :=
  settings.foldl (GlobalsKept.afterSetting listener number)
    (SceneGlobals.members.foldl (GlobalsKept.reread number) ⟨network, fun _ => none⟩)

/-- What is kept of the members is what is published, or the same number. -/
structure GlobalsKept.Coherent (state : GlobalsKept) (listener number : Nat)
    (globals : SceneGlobals) : Prop where
  publishes : state.network.PublishesGlobals listener number globals
  fresh : ∀ member ∈ SceneGlobals.members, SameAnswer (state.kept member) (globals.value? member)

namespace GlobalsKept

variable {state : GlobalsKept}

theorem foldl_reread (state : GlobalsKept) (members : List Token)
    (publishes : state.network.PublishesGlobals listener number globals) :
    (members.foldl (reread number) state).network.PublishesGlobals listener number globals ∧
      ∀ member, (members.foldl (reread number) state).kept member =
        if member ∈ members then globals.value? member else state.kept member := by
  induction members generalizing state with
  | nil => exact ⟨publishes, fun _ => by simp⟩
  | cons first members induction =>
      have same : state.network.SameWiring (state.reread number first).network :=
        sameWiring_read state.network (DeclaredGlobals.of (state.network.scene number) .root >>=
          (·.value? first))
      have read := publishes.of_sameWiring same
      have rest := induction (state.reread number first) read
      refine ⟨rest.1, ?_⟩
      intro member
      rw [List.foldl_cons, rest.2, reread, publishes.readGlobal_eq]
      by_cases isFirst : member = first
      · simp [isFirst]
      · simp [isFirst]

theorem Coherent.afterSetting (coherent : state.Coherent listener number globals)
    (setting : GlobalSetting) :
    (state.afterSetting listener number setting).Coherent listener number
      (globals.apply setting) := by
  have step := coherent.publishes.setGlobal setting
  have heard : ((state.network.setGlobal number setting).heardFrom listener number).drop
      (state.network.heardFrom listener number).length = globals.announcement setting := by
    rw [step.2, List.drop_left]
  have read := foldl_reread ⟨state.network.setGlobal number setting, state.kept⟩
    (SceneGlobals.members.filter fun member =>
      (globals.announcement setting).any (·.dirtiesGlobal member)) step.1
  rw [GlobalsKept.afterSetting, afterHearing, heard]
  refine ⟨read.1, ?_⟩
  intro member isMember
  rw [read.2]
  split
  · exact .refl _
  · rename_i unread
    apply (coherent.fresh member isMember).trans
    by_cases isSet : member = setting.member
    · cases holds : globals.holds setting with
      | true => exact SceneGlobals.value?_apply_of_holds holds member
      | false =>
          have isDirtied := (globals.announcement_dirties setting member).mpr ⟨holds, isSet⟩
          exact absurd (List.mem_filter.mpr ⟨isMember, isDirtied⟩) unread
    · rw [SceneGlobals.value?_apply_other isSet]
      exact .refl _

end GlobalsKept

theorem PublishesGlobals.coherent (publishes : network.PublishesGlobals listener number globals)
    (settings : List GlobalSetting) :
    (network.keepingGlobals listener number settings).Coherent listener number
      (settings.foldl SceneGlobals.apply globals) := by
  induction settings using List.reverseRecOn with
  | nil =>
      have read := GlobalsKept.foldl_reread ⟨network, fun _ => none⟩ SceneGlobals.members publishes
      refine ⟨read.1, ?_⟩
      intro member isMember
      rw [keepingGlobals, List.foldl_nil, read.2, if_pos isMember]
      exact .refl _
  | append_singleton settings setting induction =>
      rw [keepingGlobals, List.foldl_concat, List.foldl_concat]
      exact induction.afterSetting setting

/-- Whoever reads the globals that are published once, and then reads again just what it hears to
have changed, has at any time what would be read, whatever is set and whatever the index below
shows. Each setting is heard of at most once, not at all if it holds already, and else as a change
of its own member alone. The answers for the other members are as before. -/
theorem keepingGlobals_coherent (publishes : network.PublishesGlobals listener number globals)
    (settings : List GlobalSetting) :
    ∃ reached kept, network.keepingGlobals listener number settings = ⟨reached, kept⟩ ∧
      (∀ member ∈ SceneGlobals.members,
        SameAnswer (kept member) (reached.readGlobal number member).1) ∧
      (∀ member, (reached.readGlobal number member).1 =
        (settings.foldl SceneGlobals.apply globals).value? member) ∧
      ∀ setting,
        (reached.setGlobal number setting).heardFrom listener number =
          reached.heardFrom listener number ++
            (if (settings.foldl SceneGlobals.apply globals).holds setting then []
            else [.dirtied [(.root, .single (.sceneGlobal setting.member))]]) ∧
        (∀ other, (LocatorSet.single (.sceneGlobal setting.member)).contains
          (.sceneGlobal other) = true ↔ other = setting.member) ∧
        ∀ other, other ≠ setting.member →
          ((reached.setGlobal number setting).readGlobal number other).1 =
            (reached.readGlobal number other).1 := by
  have coherent := publishes.coherent settings
  have read := coherent.publishes.readGlobal_eq
  refine ⟨(network.keepingGlobals listener number settings).network,
    (network.keepingGlobals listener number settings).kept, rfl, ?_, read, ?_⟩
  · intro member isMember
    rw [read]
    exact coherent.fresh member isMember
  · intro setting
    have step := coherent.publishes.setGlobal setting
    refine ⟨step.2, fun _ => contains_single_sceneGlobal, ?_⟩
    intro other different
    rw [step.1.readGlobal_eq, read, SceneGlobals.value?_apply_other different]

def publishing : Network :=
  let network := (empty.addRetained.2.addGlobals 0 true).2
  (network.addListener .plain).2.observe 1 (.listener 0)

def addingRival : SceneCall :=
  .add [(.root, ⟨"", some (.retained (.whole 1) [("sceneGlobals",
    some (Blueprint.present [("primaryCameraPrim", .path (.absolute ["rival"] none))]
      (.whole 2)))])⟩)]

theorem layered_publishing : publishing.Layered id := by
  apply Layered.observe (.addListener ?_ .plain) (by decide)
  · intro index isIndex
    cases isIndex
  · have read : (empty.addRetained.2.read Reads.newNumber).2.Layered id :=
      Layered.empty.addRetained.of_sameShape (sameWiring_read _ _).sameShape
    exact read.addFilter (by decide) _ true

theorem publishes_rival : (publishing.called 0 addingRival).PublishesGlobals 0 1 .initial := by
  have publishes : publishing.PublishesGlobals 0 1 .initial :=
    ⟨⟨id, layered_publishing⟩, ⟨0, _, rfl⟩, by decide⟩
  have stores : publishing.Stores 0 .empty := ⟨by decide, rfl⟩
  have called := stores.sameShape_called addingRival
  apply publishes.of_sameShape called.1
  rw [called.2 1 (by decide)]
  exact publishes.index

theorem keepingGlobals_coherent_rival :
    ∃ reached kept, (publishing.called 0 addingRival).keepingGlobals 0 1
        [.currentFrame (0 / 0), .primaryCameraPrim (some (.absolute ["shot"] none))] =
          ⟨reached, kept⟩ ∧
      SameAnswer (kept "currentFrame") (reached.readGlobal 1 "currentFrame").1 ∧
      (reached.readGlobal 1 "primaryCameraPrim").1 =
        some (.single .path (.absolute ["shot"] none)) := by
  rcases keepingGlobals_coherent publishes_rival
    [.currentFrame (0 / 0), .primaryCameraPrim (some (.absolute ["shot"] none))] with
    ⟨reached, kept, isKept, fresh, published, _⟩
  exact ⟨reached, kept, isKept, fresh _ (by decide), published _⟩

end Network

end LayeredScene
