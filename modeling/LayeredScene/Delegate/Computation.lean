import LayeredScene.Delegate.Samples

/-! # Computations of delegates

A computation has inputs that the scene holds, inputs that other computations produce, outputs, and
a kernel that runs a number of times.
-/

namespace LayeredScene

/-- A count given as an integer of either width; anything else counts as zero. -/
def countOf : Value → Int64
  | .single .int64 count => count
  | .single .int count => count.toInt64
  | _ => 0

namespace ServedPrim

def computationInputValues (prim : ServedPrim) : Reads (Option Source) := do
  let names ← prim.ask .computationInputNames (·.computationInputNames)
  let members ← Reads.each
    (fun name => do
      let number ← Reads.newNumber
      return (name, prim.computationInputValue name number))
    names
  (Blueprint.present members).found

def computationInputSources (prim : ServedPrim) : Reads (Option Source) := do
  let inputs ← prim.ask .computationInputs (·.computationInputs)
  (Blueprint.present (inputs.map fun input =>
    (input.name, .present [("sourceComputation", .path input.computation),
      ("sourceComputationOutputName", .token input.output)]))).found

def computationOutputs (prim : ServedPrim) : Reads (Option Source) := do
  let outputs ← prim.ask .computationOutputs (·.computationOutputs)
  (Blueprint.present (outputs.map fun output =>
    (output.name, .present [("valueType", .token output.valueType)]))).found

def computationContainer (prim : ServedPrim) : Container :=
  .passing
    ["inputValues", "inputComputations", "outputs", "glslKernel", "dispatchCount", "elementCount"]
    fun name =>
      if name = "inputValues" then prim.computationInputValues
      else if name = "inputComputations" then prim.computationInputSources
      else if name = "outputs" then prim.computationOutputs
      else if name = "glslKernel" then
        (Blueprint.lazyOf (.single .string)
          (prim.ask .computationKernel (·.computationKernel))).found
      else if name = "dispatchCount" || name = "elementCount" then
        (Blueprint.lazyOf (.single .int64) (countOf <$> prim.computationInput name)).found
      else pure none

end ServedPrim

end LayeredScene
