import LayeredScene.Geometry.Space

/-! # Bounding boxes

A box is grown from nothing by the points put into it. The empty box has its corners the wrong way
round at infinity, so the first point becomes both corners.
-/

namespace LayeredScene

structure Box where
  min : Vector Float 3
  max : Vector Float 3

namespace Box

def empty : Box :=
  let infinity : Float := 1 / 0
  ⟨.replicate 3 infinity, .replicate 3 (-infinity)⟩

instance : Inhabited Box := ⟨empty⟩

/-- The smaller of two numbers; the second where neither is smaller than the other, as for zeros of
different signs and for what is not a number. -/
def lesser (a b : Float) : Float := if a < b then a else b

def greater (a b : Float) : Float := if a > b then a else b

def isEmpty (box : Box) : Bool :=
  xOf box.min > xOf box.max || yOf box.min > yOf box.max || zOf box.min > zOf box.max

def grow (box : Box) (point : Vector Float 3) : Box :=
  ⟨box.min.zipWith lesser point, box.max.zipWith greater point⟩

end Box

end LayeredScene
