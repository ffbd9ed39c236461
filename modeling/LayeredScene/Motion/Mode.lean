import LayeredScene.Token

/-! # Velocity motion modes

A prim says how its velocities are to be used; one that says nothing is moved by them.
-/

namespace LayeredScene

inductive MotionMode
  /-- velocities and accelerations both move -/
  | enable
  /-- everything stays at the last authored sample -/
  | disable
  /-- velocities move, accelerations are passed over -/
  | noAcceleration
  /-- what is authored stays as it is -/
  | ignore
deriving DecidableEq, Repr, Inhabited

namespace MotionMode

def name : MotionMode → Token
  | .enable => "enable"
  | .disable => "disable"
  | .noAcceleration => "noAcceleration"
  | .ignore => "ignore"

def all : List MotionMode := [.enable, .disable, .noAcceleration, .ignore]

def named? (name : Token) : Option MotionMode := all.find? (·.name = name)

theorem named?_eq_some_iff {name : Token} {mode : MotionMode} :
    named? name = some mode ↔ name = mode.name := by
  constructor
  · intro isFound
    rw [named?] at isFound
    have isNamed := List.find?_some isFound
    exact (decide_eq_true_iff.mp isNamed).symm
  · rintro rfl
    cases mode <;> rfl

end MotionMode

end LayeredScene
