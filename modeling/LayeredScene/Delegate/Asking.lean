import LayeredScene.Source.Reading

/-! # Asking delegates

Every question to a delegate is about one prim and is counted. A question for samples that the
delegate has no samples for is answered from the untimed answer, which is then asked for as well.
-/

namespace LayeredScene

structure ServedPrim where
  /-- the number of the delegate -/
  delegate : Nat
  path : Path

def atMost {α : Type} (limit : Option Nat) (entries : List α) : List α :=
  match limit with
  | some count => entries.take count
  | none => entries

namespace ServedPrim

variable {α : Type}

def ask (prim : ServedPrim) (query : Query) (answer : PrimAnswers → α) : Reads α :=
  Reads.ask prim.delegate prim.path query answer

/-- Ask for samples. Where there are none authored, the untimed answer is the only sample. -/
def askSamples (prim : ServedPrim) (query : Query)
    (authored : PrimAnswers → Option (List (Float32 × α))) (untimed : Reads α)
    (limit : Option Nat) :
    Reads (TimeSamples α) := do
  match ← prim.ask query authored with
  | some samples => return ⟨(atMost limit samples).toArray⟩
  | none => do
      let value ← untimed
      return ⟨(atMost limit [(0, value)]).toArray⟩

def value (prim : ServedPrim) (key : Token) : Reads Value := prim.ask .value (·.value key)

def indexedValue (prim : ServedPrim) (key : Token) : Reads (Value × List Int32) :=
  prim.ask .indexedValue (·.indexedValue key)

def sampleValue (prim : ServedPrim) (key : Token) (limit : Option Nat) :
    Reads (TimeSamples Value) :=
  prim.askSamples .sampleValue (·.valueSamples key) (prim.value key) limit

def indexedSample (sample : Float32 × Value × List Int32) : IndexedSample Value :=
  ⟨sample.1, sample.2.1, sample.2.2⟩

/-- The samples of an indexed key. An untimed value that is empty is no sample. -/
def sampleIndexedValue (prim : ServedPrim) (key : Token) (limit : Option Nat) :
    Reads (IndexedTimeSamples Value) := do
  match ← prim.ask .sampleIndexedValue (·.indexedValueSamples key) with
  | some samples => return ⟨((atMost limit samples).map indexedSample).toArray⟩
  | none => do
      let (value, indices) ← prim.indexedValue key
      if value.isEmpty then return ⟨#[]⟩
      else return ⟨(atMost limit [IndexedSample.mk 0 value indices]).toArray⟩

def transform (prim : ServedPrim) (ofInstancer : Bool) : Reads Matrix :=
  if ofInstancer then prim.ask .instancerTransform (·.instancerTransform)
  else prim.ask .transform (·.transform)

def sampleTransform (prim : ServedPrim) (ofInstancer : Bool) (limit : Option Nat) :
    Reads (TimeSamples Matrix) :=
  if ofInstancer then
    prim.askSamples .sampleInstancerTransform (·.instancerTransformSamples) (prim.transform true)
      limit
  else prim.askSamples .sampleTransform (·.transformSamples) (prim.transform false) limit

def computationInput (prim : ServedPrim) (input : Token) : Reads Value :=
  prim.ask .computationInput (·.computationInput input)

def sampleComputationInput (prim : ServedPrim) (input : Token) (limit : Option Nat) :
    Reads (TimeSamples Value) :=
  prim.askSamples .sampleComputationInput (·.computationInputSamples input)
    (prim.computationInput input) limit

def cameraParameter (prim : ServedPrim) (name : Token) : Reads Value :=
  prim.ask .cameraParameter (·.cameraParameter name)

def lightParameter (prim : ServedPrim) (name : Token) : Reads Value :=
  prim.ask .lightParameter (·.lightParameter name)

def displayStyle (prim : ServedPrim) : Reads DisplayStyle := prim.ask .displayStyle (·.displayStyle)

def renderBuffer (prim : ServedPrim) : Reads RenderBuffer := prim.ask .renderBuffer (·.renderBuffer)

end ServedPrim

end LayeredScene
