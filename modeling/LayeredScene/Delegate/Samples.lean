import LayeredScene.Delegate.Lazy

/-! # Sampled answers

Sources over what a delegate samples. At the current frame they ask the untimed question; at any
other time they need the samples, which each of them asks for once.
-/

namespace LayeredScene

def samplesOnce (number : Nat) (fetch : Reads (TimeSamples Value)) : Reads (TimeSamples Value) :=
  Reads.remembered (.fetched .values number) fetch

namespace ServedPrim

def valueSamples (prim : ServedPrim) (key : Token) (number : Nat) : Reads (TimeSamples Value) :=
  samplesOnce number (prim.sampleValue key none)

/-- The value of a key at a time. A delegate may know it only as a sample: where the untimed answer
is empty, the first sample stands in for it. -/
def valueAt (prim : ServedPrim) (key : Token) (number : Nat) (time : Float32) : Reads Value :=
  if time == 0 then do
    let value ← prim.value key
    if value.isEmpty then
      return (← prim.sampleValue key (some 1)).values.head?.getD .empty
    else return value
  else do
    let samples ← prim.valueSamples key number
    Reads.bracketed (samples.sample? time)

def primvarValue (prim : ServedPrim) (key : Token) (number : Nat) : Blueprint := fun identity =>
  .sampled (.ofType ⟨some identity, []⟩ .any (prim.valueAt key number) fun start finish => do
    return (← prim.valueSamples key number).contributingTimes start finish)

def indexedSamples (prim : ServedPrim) (key : Token) (number : Nat) :
    Reads (IndexedTimeSamples Value) :=
  Reads.remembered (.fetched .indexedValues number) (prim.sampleIndexedValue key none)

def indexedValueAt (prim : ServedPrim) (key : Token) (number : Nat) (time : Float32) :
    Reads (Value × List Int32) :=
  if time == 0 then prim.indexedValue key
  else do
    let samples ← prim.indexedSamples key number
    Reads.bracketed (samples.sample? time)

/-- The times of an indexed key. It always counts as changing, if need be at no times. -/
def indexedTimes (prim : ServedPrim) (key : Token) (number : Nat) (start finish : Float32) :
    Reads (Option (List Float32)) := do
  return some (((← prim.indexedSamples key number).contributingTimes start finish).getD [])

def indexedPrimvarValue (prim : ServedPrim) (key : Token) (number : Nat) : Blueprint :=
  fun identity =>
    .sampled (.untyped ⟨some identity, []⟩
      (fun time => (·.1) <$> prim.indexedValueAt key number time) (prim.indexedTimes key number))

def primvarIndices (prim : ServedPrim) (key : Token) (number : Nat) : Blueprint := fun identity =>
  .sampled (.ofType ⟨some identity, []⟩ (.array .int)
    (fun time => (·.2) <$> prim.indexedValueAt key number time) (prim.indexedTimes key number))

def computationInputSamples (prim : ServedPrim) (input : Token) (number : Nat) :
    Reads (TimeSamples Value) :=
  samplesOnce number (prim.sampleComputationInput input none)

def computationInputValue (prim : ServedPrim) (input : Token) (number : Nat) : Blueprint :=
  fun identity =>
    .sampled (.untyped ⟨some identity, []⟩
      (fun time =>
        if time == 0 then prim.computationInput input
        else do
          let samples ← prim.computationInputSamples input number
          Reads.bracketed (samples.sample? time))
      fun start finish => do
        return (← prim.computationInputSamples input number).contributingTimes start finish)

def transformSamples (prim : ServedPrim) (ofInstancer : Bool) (number : Nat) :
    Reads (TimeSamples Matrix) :=
  Reads.remembered (.fetched .matrices number) (prim.sampleTransform ofInstancer none)

/-- The matrix of a transform at a time. Without samples nothing is moved. -/
def transformAt (prim : ServedPrim) (ofInstancer : Bool) (number : Nat) (time : Float32) :
    Reads Matrix :=
  letI : Inhabited Matrix := ⟨identityMatrix⟩
  if time == 0 then prim.transform ofInstancer
  else do
    let samples ← prim.transformSamples ofInstancer number
    Reads.bracketed (samples.sample? time)

def transformMatrix (prim : ServedPrim) (ofInstancer : Bool) (number : Nat) : Blueprint :=
  fun identity =>
    .sampled (.ofType ⟨some identity, []⟩ (.single .matrix4d) (prim.transformAt ofInstancer number)
      fun start finish => do
        return (← prim.transformSamples ofInstancer number).contributingTimes start finish)

end ServedPrim

end LayeredScene
