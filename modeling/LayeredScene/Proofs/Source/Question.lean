import LayeredScene.Source.Walk

/-! # Questions to data

What is known of data is what it answers. A question is put to what turns lead to, and an answer
holds nothing of which object gave it: data made twice can answer alike.
-/

namespace LayeredScene

inductive Question
  | kind
  | names
  | size
  | type
  | value (time : Float32)
  | content (type : ValueType) (time : Float32)
  | times (start finish : Float32)

inductive Answer
  | nothing
  | kind (name : String)
  | names (names : List Token)
  | size (size : Nat)
  | type (type : Option ValueType)
  | value (value : Value)
  | content (type : ValueType) (content : type.Content)
  | times (times : Option (List Float32))

namespace Sampled

def answer (content : Sampled) : Question → Reads Answer
  | .kind => return .kind "sampled"
  | .type => return .type (content.typed.map (·.type))
  | .value time => return .value (← content.value time)
  | .content type time => return .content type (← content.read type time)
  | .times start finish => return .times (← content.times start finish)
  | .names | .size => return .nothing

end Sampled

namespace Source

def answer : Source → Question → Reads Answer
  | .container _ names _, question =>
      match question with
      | .kind => return .kind "container"
      | .names => return .names (← (names : Reads (List Token)))
      | _ => return .nothing
  | .vector _ size _, question =>
      match question with
      | .kind => return .kind "vector"
      | .size => return .size (← (size : Reads Nat))
      | _ => return .nothing
  | .sampled content, question => content.answer question
  | .block, question =>
      match question with
      | .kind => return .kind "block"
      | _ => return .nothing

def askedAt (found : Option Source) (turns : List Turn) (question : Question) : Reads Answer := do
  match ← follow found turns with
  | some source => source.answer question
  | none => return .nothing

theorem askedAt_none (turns : List Turn) (question : Question) :
    askedAt none turns question = pure .nothing := by
  cases turns <;> rfl

theorem askedAt_cons (source : Source) (turn : Turn) (turns : List Turn) (question : Question) :
    askedAt (some source) (turn :: turns) question = (do
      askedAt (← source.turn turn) turns question) :=
  rfl

theorem askedAt_nowhere {source : Source} {turn : Turn} (nowhere : source.turn turn = pure none)
    (turns : List Turn) (question : Question) :
    askedAt (some source) (turn :: turns) question = pure .nothing := by
  rw [askedAt_cons, nowhere]
  exact askedAt_none turns question

end Source

end LayeredScene
