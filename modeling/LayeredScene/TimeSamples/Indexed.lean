import LayeredScene.TimeSamples.Basic

/-! # Indexed time samples

An indexed primvar is authored as values with indices into them. Values of two samples only blend if
both samples use the same indices; otherwise the earlier sample holds until the later one.
-/

namespace LayeredScene

structure IndexedSample (α : Type) where
  time : Float32
  value : α
  indices : List Int32
deriving Inhabited

structure IndexedTimeSamples (α : Type) where
  samples : Array (IndexedSample α)
deriving Inhabited

namespace IndexedTimeSamples

variable {α : Type}

def ofParts (times : List Float32) (values : List α) (indices : List (List Int32)) :
    IndexedTimeSamples α :=
  ⟨((times.zip (values.zip indices)).map fun part => ⟨part.1, part.2.1, part.2.2⟩).toArray⟩

def plain (array : IndexedTimeSamples α) : TimeSamples α :=
  ⟨array.samples.map fun sample => (sample.time, sample.value)⟩

/-- The value and indices at a time, if the time has neighbours. The indices are those of the
earlier sample. -/
def sample? [Inhabited α] [Blend α] (array : IndexedTimeSamples α) (time : Float32) :
    Option (α × List Int32) :=
  match array.samples[0]?, array.samples.back? with
  | some first, some last =>
      if time ≤ first.time then some (first.value, first.indices)
      else if last.time ≤ time then some (last.value, last.indices)
      else
        let position := array.plain.floorIndex time
        match array.samples[position]?, array.samples[position + 1]? with
        | some start, some finish =>
            if time == start.time || finish.time ≤ start.time || start.indices ≠ finish.indices then
              some (start.value, start.indices)
            else
              let part := TimeSamples.progress time start.time finish.time
              some (Blend.blend start.value finish.value part, start.indices)
        | _, _ => none
  | _, _ => some (default, [])

def contributingTimes (array : IndexedTimeSamples α) (start finish : Float32) :
    Option (List Float32) :=
  array.plain.contributingTimes start finish

theorem getElem?_plain (array : IndexedTimeSamples α) (position : Nat) :
    array.plain.samples[position]? =
      array.samples[position]?.map fun sample => (sample.time, sample.value) :=
  Array.getElem?_map

theorem size_plain (array : IndexedTimeSamples α) :
    array.plain.samples.size = array.samples.size :=
  Array.size_map

end IndexedTimeSamples

end LayeredScene
