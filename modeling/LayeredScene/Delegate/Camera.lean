import LayeredScene.Delegate.Lazy

/-! # Cameras of delegates

Camera parameters are asked for whenever they are read. Most have a known type and its default where
the delegate has another value; parameters that no camera has by name are passed on as they are.
-/

namespace LayeredScene

def clippingRange : Value → Vector Float32 2
  | .single .float2 range => range
  | .foreign (.range near far) => #v[near, far]
  | _ => .replicate 2 0

def projection : Value → Token
  | .single .token "orthographic" => "orthographic"
  | _ => "perspective"

namespace ServedPrim

def typedCameraParameter (prim : ServedPrim) (type : ValueType) (name : Token) : Blueprint :=
  .lazyOf type (type.read <$> prim.cameraParameter name)

def cameraParameterGroup (prim : ServedPrim) (group : Token) (names : List Token) : Container :=
  .passing names fun name =>
    if names.contains name then
      let type : ValueType :=
        if name = "count" then .single .int
        else if name = "type" then .single .token
        else if name = "center" || name = "asym" then .single .float2
        else .single .float
      (prim.typedCameraParameter type (group ++ ":" ++ name)).found
    else pure none

def splitDiopterNames : List Token :=
  ["count", "angle", "offset1", "width1", "focusDistance1", "offset2", "width2", "focusDistance2"]

def lensDistortionNames : List Token :=
  ["type", "k1", "k2", "center", "anaSq", "asym", "scale", "ior"]

def cameraNumbers : List Token :=
  ["horizontalAperture", "verticalAperture", "horizontalApertureOffset", "verticalApertureOffset",
    "focalLength", "fStop", "focusDistance", "exposure", "dofAspect"]

def cameraContainer (prim : ServedPrim) : Container :=
  .passing
    ["projection", "horizontalAperture", "verticalAperture", "horizontalApertureOffset",
      "verticalApertureOffset", "focalLength", "clippingRange", "clippingPlanes", "fStop",
      "focusDistance", "shutterOpen", "shutterClose", "exposure", "focusOn", "dofAspect",
      "splitDiopter", "lensDistortion"]
    fun name =>
      if name = "projection" then
        (Blueprint.lazyOf (.single .token) (projection <$> prim.cameraParameter "projection")).found
      else if name = "clippingRange" then
        (Blueprint.lazyOf (.single .float2)
          (clippingRange <$> prim.cameraParameter "clippingRange")).found
      else if name = "clippingPlanes" then
        (prim.typedCameraParameter (.array .double4) "clipPlanes").found
      else if name = "shutterOpen" || name = "shutterClose" then
        (prim.typedCameraParameter (.single .double) name).found
      else if name = "focusOn" then (prim.typedCameraParameter (.single .bool) name).found
      else if name = "splitDiopter" then (prim.cameraParameterGroup name splitDiopterNames).found
      else if name = "lensDistortion" then
        (prim.cameraParameterGroup name lensDistortionNames).found
      else if cameraNumbers.contains name then
        (prim.typedCameraParameter (.single .float) name).found
      else (Blueprint.lazy (prim.cameraParameter name)).found

end ServedPrim

end LayeredScene
