/-! # Space

A vector in space has a coordinate along each of three axes. Points, directions and velocities are
such vectors.
-/

namespace LayeredScene

variable {α : Type}

def xOf (v : Vector α 3) : α := v[0]

def yOf (v : Vector α 3) : α := v[1]

def zOf (v : Vector α 3) : α := v[2]

def lengthOf (v : Vector Float32 3) : Float32 :=
  (xOf v * xOf v + yOf v * yOf v + zOf v * zOf v).sqrt

end LayeredScene
