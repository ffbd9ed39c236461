import LayeredScene.Proofs.Source.Question

/-! # Containers behind others

A filter shows the containers of a prim through containers of its own. Names lead through such a
container as they lead through the one behind it wherever it passes the question on, and what is no
container is shown as it is.
-/

namespace LayeredScene.Source

variable {α : Type}

/-! ## The first name of a chain -/

def walkBeyond (rest : List Token) : Option Source → Reads (Option Source)
  | some found => found.walk rest
  | none => pure none

theorem walk_cons (name : Token) (rest : List Token) (source : Source) :
    source.walk (name :: rest) = source.child name >>= walkBeyond rest := by
  funext around store
  simp only [walk, bind, Pure.pure]
  cases source.child name around store with
  | mk found after => cases found <;> rfl

theorem walk_toSource_cons (name : Token) (rest : List Token) (container : Container) :
    container.toSource.walk (name :: rest) = container.get name >>= walkBeyond rest := by
  rw [walk_cons, child, container?_toSource]

theorem walk_toSource_single (name : Token) (container : Container) :
    container.toSource.walk [name] = container.get name := by
  rw [walk_toSource_cons]
  refine (bind_congr fun found => ?_).trans (bind_pure _)
  cases found <;> rfl

theorem walk_of_not_container {source : Source} (notContainer : source.container? = none)
    (name : Token) (rest : List Token) : source.walk (name :: rest) = pure none := by
  rw [walk_cons, child, notContainer]
  rfl

theorem walk_append_eq_bind (start rest : List Token) (source : Source) :
    source.walk (start ++ rest) = source.walk start >>= walkBeyond rest := by
  rw [walk_append]
  apply bind_congr
  intro found
  cases found <;> rfl

theorem walk_append_of_reads {start rest : List Token} {source : Source} {around : Surroundings}
    {store after : Store} {result : Option Source}
    (reads : source.walk start around store = (result, after)) :
    source.walk (start ++ rest) around store = walkBeyond rest result around after := by
  rw [walk_append_eq_bind, Reads.bind_of_reads reads]

theorem askedAt_walk (names : List Token) (source : Source) (turns : List Turn)
    (question : Question) :
    source.walk names >>= (askedAt · turns question) =
      askedAt (some source) (names.map .member ++ turns) question := by
  rw [walk_eq_follow, askedAt, follow_append, bind_assoc]
  rfl

/-! ## What is seen from the front -/

def front (source : Source) : String × Option (Reads (List Token)) :=
  (source.kind, source.container?.map (·.names))

def behind (wrap : Container → Container) (source : Source) : Source :=
  match source.container? with
  | some holder => (wrap holder).toSource
  | none => source

variable {wrap : Container → Container}

theorem toSource_of_container? {source : Source} {holder : Container}
    (isContainer : source.container? = some holder) : source = holder.toSource := by
  cases source with
  | container mark names get =>
      cases isContainer
      rfl
  | _ => contradiction

theorem front_toSource (holder : Container) :
    holder.toSource.front = ("container", some holder.names) :=
  rfl

/-! ## A member shown through another container -/

section Member

variable {outer inner : Container} {name : Token}

theorem get_bind_eq_bind {read readInner : Option Source → Reads α}
    (shows : outer.get name = Option.map (behind wrap) <$> inner.get name)
    (absent : read none = readInner none)
    (plain : ∀ source : Source, source.container? = none →
      read (some source) = readInner (some source))
    (through : ∀ holder : Container,
      read (some (wrap holder).toSource) = readInner (some holder.toSource)) :
    outer.get name >>= read = inner.get name >>= readInner := by
  rw [shows, map_eq_pure_bind, bind_assoc]
  apply bind_congr
  intro found
  rw [pure_bind]
  cases found with
  | none => exact absent
  | some source =>
      rw [Option.map_some, behind]
      cases isContainer : source.container? with
      | none => exact plain source isContainer
      | some holder =>
          rw [toSource_of_container? isContainer]
          exact through holder

theorem get_bind_eq {read : Option Source → Reads α}
    (shows : outer.get name = Option.map (behind wrap) <$> inner.get name)
    (same : ∀ holder : Container, read (some (wrap holder).toSource) = read (some holder.toSource)) :
    outer.get name >>= read = inner.get name >>= read :=
  get_bind_eq_bind shows rfl (fun _ _ => rfl) same

theorem walk_through {next : Token} {rest : List Token}
    (shows : outer.get name = Option.map (behind wrap) <$> inner.get name)
    (same : ∀ holder, (wrap holder).toSource.walk (next :: rest) =
      holder.toSource.walk (next :: rest)) :
    outer.toSource.walk (name :: next :: rest) = inner.toSource.walk (name :: next :: rest) := by
  rw [walk_toSource_cons, walk_toSource_cons]
  exact get_bind_eq shows same

theorem front_through
    (shows : outer.get name = Option.map (behind wrap) <$> inner.get name)
    (namesKept : ∀ holder, (wrap holder).names = holder.names) :
    Option.map front <$> outer.get name = Option.map front <$> inner.get name := by
  rw [map_eq_pure_bind, map_eq_pure_bind]
  refine get_bind_eq shows fun holder => ?_
  rw [Option.map_some, Option.map_some, front_toSource, front_toSource, namesKept]

end Member

end LayeredScene.Source
