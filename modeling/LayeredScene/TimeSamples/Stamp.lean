/-! # Stamps

Samples are put in order by when they were authored. A stamp is an authored time as its bits, for
the order goes by them: it tells zeros of different signs apart, and has a place for each of the
many patterns that are no number.
-/

namespace LayeredScene

structure Stamp where
  bits : UInt32
deriving DecidableEq, Repr

namespace Stamp

def ofTime (time : Float32) : Stamp := ⟨time.toBits⟩

/-- The time of a stamp. Patterns that are no number all give the same. -/
def time (stamp : Stamp) : Float32 := .ofBits stamp.bits

/-- The place of a stamp among all stamps. Of the negative ones, which come first, those with the
larger magnitude come first. -/
def orderKey (stamp : Stamp) : UInt32 :=
  if stamp.bits >>> 31 = 1 then ~~~stamp.bits else stamp.bits + 0x80000000

def quiet (stamp : Stamp) : Stamp :=
  if stamp.bits &&& 0x7fffffff > 0x7f800000 then ⟨stamp.bits ||| 0x400000⟩ else stamp

def ofWide (bits : UInt64) : Stamp :=
  if bits &&& 0x7fffffffffffffff > 0x7ff0000000000000 then
    let sign : UInt32 := (bits >>> 63).toUInt32 <<< 31
    let fraction : UInt32 := (bits >>> 29).toUInt32 &&& 0x3fffff
    ⟨sign ||| fraction ||| (0x7fc00000 : UInt32)⟩
  else ofTime (Float.ofBits bits).toFloat32

end Stamp

end LayeredScene
