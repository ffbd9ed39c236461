import LayeredScene.Search.Bisection
import LayeredScene.TimeSamples.Stamp
import LayeredScene.Value.Type

/-! # Time samples

A value that changes over time is authored at a few times and blended between them. Before the first
and after the last sample the nearest one holds. Times are single precision numbers relative to the
current frame, and a time that is not a number is ordered against no other; with a single sample
such a time has nothing on either side, and then there is no answer.
-/

namespace LayeredScene

class Blend (α : Type) where
  /-- what lies part of the way from the first to the second -/
  blend : α → α → Float32 → α

instance : Blend Value := ⟨Value.blend⟩

instance (type : ValueType) : Blend type.Content := ⟨type.blend⟩

instance : Blend Matrix := ⟨Kind.matrix4d.blend⟩

structure TimeSamples (α : Type) where
  samples : Array (Float32 × α)
deriving Inhabited

namespace TimeSamples

variable {α : Type}

/-- The samples given as pairs, put in order of time. Pairs of one stamp keep their order. -/
def ofPairs (pairs : List (Stamp × α)) : TimeSamples α :=
  ⟨((pairs.mergeSort fun pair other => pair.1.orderKey ≤ other.1.orderKey).map fun pair =>
    (pair.1.time, pair.2)).toArray⟩

/-- The samples given as times and values, taken to be in order. What the longer list has over is
dropped. -/
def ofParts (times : List Float32) (values : List α) : TimeSamples α :=
  ⟨(times.zip values).toArray⟩

def single (value : α) : TimeSamples α := ⟨#[(0, value)]⟩

def size (array : TimeSamples α) : Nat := array.samples.size

def times (array : TimeSamples α) : List Float32 := array.samples.toList.map (·.1)

def values (array : TimeSamples α) : List α := array.samples.toList.map (·.2)

def startsBy (samples : Array (Float32 × α)) (time : Float32) (position : Nat) : Bool :=
  match samples[position]? with
  | some sample => sample.1 ≤ time
  | none => false

/-- The position of the last sample authored no later than a time, or the first position. -/
def floorIndex (array : TimeSamples α) (time : Float32) : Nat :=
  bisect (startsBy array.samples time) 0 array.samples.size - 1

def progress (time start finish : Float32) : Float32 := (time - start) / (finish - start)

/-- The value at a time, if the time has neighbours. Without samples it is the default. -/
def sample? [Inhabited α] [Blend α] (array : TimeSamples α) (time : Float32) : Option α :=
  match array.samples[0]?, array.samples.back? with
  | some (firstTime, first), some (lastTime, last) =>
      if time ≤ firstTime then some first
      else if lastTime ≤ time then some last
      else
        let position := array.floorIndex time
        match array.samples[position]?, array.samples[position + 1]? with
        | some (start, value), some (finish, next) =>
            if time == start || finish ≤ start then some value
            else some (Blend.blend value next (progress time start finish))
        | _, _ => none
  | _, _ => some default

/-- The times from the last one before `start` to the first one at or after `finish`. -/
def gather (start finish : Float32) (kept : List Float32) : List Float32 → List Float32
  | [] => kept
  | time :: later =>
      let kept := (if time < start then [] else kept) ++ [time]
      if finish ≤ time then kept else gather start finish kept later

/-- The times that values between `start` and `finish` depend on; `none` if at most one is authored,
so that the value never changes. -/
def contributing (times : List Float32) (start finish : Float32) : Option (List Float32) :=
  if times.length ≤ 1 then none else some (gather start finish [] times)

def contributingTimes (array : TimeSamples α) (start finish : Float32) : Option (List Float32) :=
  contributing array.times start finish

theorem floorIndex_lt (array : TimeSamples α) (time : Float32) (notEmpty : 0 < array.samples.size) :
    array.floorIndex time < array.samples.size := by
  have bounds := bisect_bounds (startsBy array.samples time) 0 array.samples.size (Nat.zero_le _)
  simp only [floorIndex]
  omega

end TimeSamples

end LayeredScene
