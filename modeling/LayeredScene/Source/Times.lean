import LayeredScene.Source.Basic

/-! # Merged sample times

What depends on several sources changes whenever one of them does, so the times at which it has to
be looked at are the union of theirs. Sources that never change, or that report no times, add
nothing.
-/

namespace LayeredScene

/-- Two ascending lists of times as one. A time in both is listed once. Times that are not ordered
against each other count as one. -/
def uniteTimes : List Float32 → List Float32 → List Float32
  | [], others => others
  | times, [] => times
  | time :: rest, other :: others =>
      if time < other then time :: uniteTimes rest (other :: others)
      else if other < time then other :: uniteTimes (time :: rest) others
      else time :: uniteTimes rest others
termination_by times others => times.length + others.length

def changingTimes : Option (List Float32) → Option (List Float32)
  | some (time :: rest) => some (time :: rest)
  | _ => none

def uniteReports (merged reported : Option (List Float32)) : Option (List Float32) :=
  match merged, changingTimes reported with
  | merged, none => merged
  | none, some times => some times
  | some present, some times => some (uniteTimes present times)

/-- The union of the times of all sources that are present; `none` if none of them changes. -/
def mergedTimes (sources : List (Option Sampled)) (start finish : Float32) :
    Reads (Option (List Float32)) := do
  let reports ← Reads.each (fun source : Sampled => source.times start finish)
    (sources.filterMap id)
  return reports.foldl uniteReports none

end LayeredScene
