import LayeredScene.TimeSamples.Order
import LayeredScene.TimeSamples.Stamp
import Mathlib.Algebra.Group.Nat.Defs
import Mathlib.Algebra.Order.Group.Defs
import Mathlib.Algebra.Order.Group.Int
import Mathlib.Algebra.Order.Monoid.Prod

/-! # The order of stamps

Samples are put in order by the places of their stamps, and found by comparing times. The two go
together: of two stamps whose times are numbers, the one with the earlier time has the lower place.
A number is taken apart into sign, exponent and mantissa, from which both its rank and its place are
read.
-/

namespace LayeredScene.Stamp

open TimeOrder
open Float.Model (Format UnpackedFloat)
open Float.Model.UnpackedFloat

variable {bits : BitVec Format.binary32.numBits} {sign : Sign} {exponent mantissa : ℕ}
  {number : UnpackedFloat}

/-! ## The parts of a number -/

theorem toNat_unpackMantissa (bits : BitVec Format.binary32.numBits) :
    (unpackMantissa bits).toNat = bits.toNat % 2 ^ 23 := by
  change (bits.extractLsb 22 0).toNat = _
  simp [BitVec.extractLsb_toNat]

theorem toNat_unpackExponent (bits : BitVec Format.binary32.numBits) :
    (unpackExponent bits).toNat = bits.toNat / 2 ^ 23 % 2 ^ 8 := by
  change (bits.extractLsb 30 23).toNat = _
  simp [BitVec.extractLsb_toNat, Nat.shiftRight_eq_div_pow]

theorem toNat_unpackSign (bits : BitVec Format.binary32.numBits) :
    (unpackSign bits).toNat = bits.toNat / 2 ^ 31 := by
  have bound : bits.toNat < 2 ^ 32 := bits.isLt
  have single : bits.toNat / 2 ^ 31 % 2 = bits.toNat / 2 ^ 31 := by omega
  change (bits.extractLsb 31 31).toNat = _
  rw [BitVec.extractLsb_toNat, Nat.shiftRight_eq_div_pow]
  exact single

theorem toBitVec_ofBitVec (sign : BitVec 1) : (Sign.ofBitVec sign).toBitVec = sign := by
  rcases BitVec.eq_zero_or_eq_one sign with rfl | rfl <;> rfl

theorem packComponents_unpacked (bits : BitVec Format.binary32.numBits) :
    packComponents .binary32 (.ofBitVec (unpackSign bits)) (unpackExponent bits)
      (unpackMantissa bits) = bits := by
  have bound : bits.toNat < 2 ^ 32 := bits.isLt
  apply BitVec.eq_of_toNat_eq
  rw [packComponents, toBitVec_ofBitVec, BitVec.toNat_append, BitVec.toNat_append,
    ← Nat.shiftLeft_add_eq_or_of_lt (BitVec.isLt _),
    ← Nat.shiftLeft_add_eq_or_of_lt (BitVec.isLt _), Nat.shiftLeft_eq, Nat.shiftLeft_eq,
    toNat_unpackSign, toNat_unpackExponent, toNat_unpackMantissa]
  change (_ * 2 ^ 8 + _) * 2 ^ 23 + _ = _
  omega

inductive StandsFor (sign : Sign) : ℕ → ℕ → UnpackedFloat → Prop
  | infinity : StandsFor sign 255 0 (.infinity sign)
  | zero : StandsFor sign 0 0 (.zero sign)
  | subnormal (mantissa : ℕ) (positive : 0 < mantissa) :
      StandsFor sign 0 mantissa (.finite sign mantissa (-149) positive)
  | normal (exponent mantissa significand : ℕ) (positive : 0 < significand)
      (above : 0 < exponent) (below : exponent < 255) (leading : significand = 2 ^ 23 + mantissa) :
      StandsFor sign exponent mantissa (.finite sign significand (exponent - 150) positive)

theorem standsFor_unpack (isNumber : unpack .binary32 bits ≠ .notANumber) :
    StandsFor (.ofBitVec (unpackSign bits)) (unpackExponent bits).toNat (unpackMantissa bits).toNat
      (unpack .binary32 bits) := by
  unfold unpack at isNumber ⊢
  dsimp only at isNumber ⊢
  by_cases atTop : unpackExponent bits = -BitVec.ofNat _ 1
  · rw [if_pos atTop] at isNumber ⊢
    by_cases noMantissa : unpackMantissa bits = BitVec.ofNat _ 0
    · rw [if_pos noMantissa, atTop, noMantissa]
      exact .infinity
    · rw [if_neg noMantissa] at isNumber
      contradiction
  · rw [if_neg atTop]
    by_cases atBottom : unpackExponent bits = BitVec.ofNat _ 0
    · rw [if_pos atBottom]
      by_cases noMantissa : unpackMantissa bits = BitVec.ofNat _ 0
      · rw [dif_pos noMantissa, atBottom, noMantissa]
        exact .zero
      · rw [dif_neg noMantissa, atBottom]
        exact .subnormal _ _
    · have above : 0 < (unpackExponent bits).toNat := by
        apply Nat.pos_of_ne_zero
        intro isZero
        exact atBottom (BitVec.eq_of_toNat_eq isZero)
      have below : (unpackExponent bits).toNat < 255 := by
        have bound : (unpackExponent bits).toNat < 2 ^ 8 := (unpackExponent bits).isLt
        have notTop : (unpackExponent bits).toNat ≠ 255 :=
          fun isTop => atTop (BitVec.eq_of_toNat_eq isTop)
        omega
      have leading : (1#1 ++ unpackMantissa bits).toNat =
          2 ^ 23 + (unpackMantissa bits).toNat := by
        rw [BitVec.toNat_append, ← Nat.shiftLeft_add_eq_or_of_lt (unpackMantissa bits).isLt]
        rfl
      rw [if_neg atBottom]
      exact .normal _ _ _ _ above below leading

theorem pack_of_standsFor (standsFor : StandsFor sign exponent mantissa number)
    (bound : mantissa < 2 ^ 23) :
    pack .binary32 number =
      packComponents .binary32 sign (BitVec.ofNat 8 exponent) (BitVec.ofNat 23 mantissa) := by
  cases standsFor with
  | infinity => rfl
  | zero => rfl
  | subnormal _ positive =>
      have short : mantissa.log2 < 23 := (Nat.log2_lt positive.ne').mpr bound
      have notFull : ¬mantissa.log2 + 1 = Format.binary32.mantissaBits := by
        change ¬_ = 24
        omega
      unfold pack
      dsimp only
      rw [if_neg (by decide), if_neg notFull]
  | normal _ _ significand positive above below leading =>
      have biased : ((exponent : ℤ) - 150 + (Format.binary32.exponentBias : ℤ) +
          (Format.binary32.mantissaBitsWithoutImplicit : ℤ)).toNat = exponent := by
        change ((exponent : ℤ) - 150 + 127 + 23).toNat = exponent
        omega
      have notTop : ¬2 ^ Format.binary32.exponentBits ≤ exponent + 1 := by
        change ¬2 ^ 8 ≤ exponent + 1
        omega
      have isFull : significand.log2 + 1 = Format.binary32.mantissaBits := by
        have low : 23 ≤ significand.log2 := (Nat.le_log2 positive.ne').mpr (by omega)
        have high : significand.log2 < 24 := (Nat.log2_lt positive.ne').mpr (by omega)
        change _ = 24
        omega
      have trailing : BitVec.ofNat 23 significand = BitVec.ofNat 23 mantissa := by
        apply BitVec.eq_of_toNat_eq
        rw [BitVec.toNat_ofNat, BitVec.toNat_ofNat, leading, Nat.add_mod_left]
      unfold pack
      dsimp only
      rw [biased, if_neg notTop, if_pos isFull]
      exact congrArg _ trailing

theorem pack_unpack (isNumber : unpack .binary32 bits ≠ .notANumber) :
    pack .binary32 (unpack .binary32 bits) = bits := by
  rw [pack_of_standsFor (standsFor_unpack isNumber) (unpackMantissa bits).isLt,
    BitVec.ofNat_toNat, BitVec.ofNat_toNat, BitVec.setWidth_eq, BitVec.setWidth_eq]
  exact packComponents_unpacked bits

def pattern (stamp : Stamp) : BitVec Format.binary32.numBits := stamp.bits.toBitVec

theorem unpack_time {stamp : Stamp} (isNumber : IsNumber stamp.time) :
    unpack .binary32 stamp.pattern ≠ .notANumber ∧
      stamp.time.toModel.unpack = unpack .binary32 stamp.pattern := by
  have repacked : stamp.time.toModel.unpack =
      unpack .binary32 (pack .binary32 (unpack .binary32 stamp.pattern)) := rfl
  have bitsAreNumber : unpack .binary32 stamp.pattern ≠ .notANumber := by
    intro isNaN
    apply isNumber
    rw [repacked, isNaN]
    rfl
  rw [repacked, pack_unpack bitsAreNumber]
  exact ⟨bitsAreNumber, rfl⟩

/-! ## Ranks and places -/

def distance (magnitude : ℕ) : Rank :=
  if magnitude = 0 then rankAt 0 0 0
  else if magnitude / 2 ^ 23 = 0 then rankAt 1 (-149) magnitude
  else if magnitude / 2 ^ 23 = 255 then rankAt 2 0 0
  else rankAt 1 ((magnitude / 2 ^ 23 : ℕ) - 150) (2 ^ 23 + (magnitude % 2 ^ 23 : ℕ))

theorem distance_le {magnitude other : ℕ} (ordered : magnitude ≤ other)
    (isNumber : other ≤ 255 * 2 ^ 23) : distance magnitude ≤ distance other := by
  rcases Nat.lt_or_eq_of_le ordered with less | rfl
  · refine LT.lt.le ?_
    unfold distance
    split_ifs <;> rw [rankAt_lt_iff] <;> omega
  · exact le_rfl

theorem distance_nonneg {magnitude : ℕ} (isNumber : magnitude ≤ 255 * 2 ^ 23) :
    rankAt 0 0 0 ≤ distance magnitude :=
  distance_le (Nat.zero_le magnitude) isNumber

def signed : Sign → Rank → Rank
  | .positive, distance => distance
  | .negative, distance => -distance

theorem rankOf_of_standsFor (standsFor : StandsFor sign exponent mantissa number)
    (bound : mantissa < 2 ^ 23) :
    exponent * 2 ^ 23 + mantissa ≤ 255 * 2 ^ 23 ∧
      rankOf number = signed sign (distance (exponent * 2 ^ 23 + mantissa)) := by
  cases standsFor with
  | infinity => cases sign <;> exact ⟨by decide, rfl⟩
  | zero => cases sign <;> exact ⟨by decide, rfl⟩
  | subnormal _ positive =>
      rw [distance, if_neg (by omega), if_pos (by omega), Nat.zero_mul, Nat.zero_add]
      cases sign <;> exact ⟨by omega, rfl⟩
  | normal _ _ significand positive above below leading =>
      have quotient : (exponent * 2 ^ 23 + mantissa) / 2 ^ 23 = exponent := by omega
      have remainder : (exponent * 2 ^ 23 + mantissa) % 2 ^ 23 = mantissa := by omega
      rw [distance, quotient, remainder, if_neg (by omega), if_neg above.ne', if_neg below.ne]
      subst leading
      cases sign <;> exact ⟨by omega, rfl⟩

theorem ofBitVec_eq (sign : BitVec 1) :
    Sign.ofBitVec sign = if sign.toNat = 0 then .positive else .negative := by
  rcases BitVec.eq_zero_or_eq_one sign with rfl | rfl <;> rfl

theorem toNat_pattern (stamp : Stamp) : stamp.pattern.toNat = stamp.bits.toNat := rfl

theorem rank_time {stamp : Stamp} (isNumber : IsNumber stamp.time) :
    stamp.bits.toNat % 2 ^ 31 ≤ 255 * 2 ^ 23 ∧
      rank stamp.time = signed (if stamp.bits.toNat / 2 ^ 31 = 0 then .positive else .negative)
        (distance (stamp.bits.toNat % 2 ^ 31)) := by
  rcases unpack_time isNumber with ⟨bitsAreNumber, unpacks⟩
  have found := rankOf_of_standsFor (standsFor_unpack bitsAreNumber)
    (unpackMantissa stamp.pattern).isLt
  have magnitude : stamp.bits.toNat / 2 ^ 23 % 2 ^ 8 * 2 ^ 23 + stamp.bits.toNat % 2 ^ 23 =
      stamp.bits.toNat % 2 ^ 31 := by
    omega
  rw [ofBitVec_eq, toNat_unpackSign, toNat_unpackExponent, toNat_unpackMantissa,
    toNat_pattern, magnitude] at found
  rw [rank, unpacks]
  exact found

theorem toNat_orderKey (stamp : Stamp) :
    stamp.orderKey.toNat =
      if stamp.bits.toNat / 2 ^ 31 = 0 then stamp.bits.toNat + 2 ^ 31
      else 2 ^ 32 - 1 - stamp.bits.toNat := by
  have bound : stamp.bits.toNat < 2 ^ 32 := stamp.bits.toNat_lt
  have isNegative : stamp.bits >>> 31 = 1 ↔ stamp.bits.toNat / 2 ^ 31 = 1 := by
    rw [← UInt32.toNat_inj, UInt32.toNat_shiftRight, Nat.shiftRight_eq_div_pow]
    rfl
  by_cases negative : stamp.bits >>> 31 = 1
  · have sign := isNegative.mp negative
    rw [orderKey, if_pos negative, if_neg (by omega), UInt32.toNat_not]
    rfl
  · have sign : stamp.bits.toNat / 2 ^ 31 = 0 := by
      rw [isNegative] at negative
      omega
    have noCarry : stamp.bits.toNat + 2 ^ 31 < 2 ^ 32 := by omega
    rw [orderKey, if_neg negative, if_pos sign, UInt32.toNat_add]
    exact Nat.mod_eq_of_lt noCarry

theorem orderKey_lt_of_lt {first second : Stamp} (before : first.time < second.time) :
    first.orderKey < second.orderKey := by
  rcases lt_iff.mp before with ⟨firstIsNumber, secondIsNumber, rankLess⟩
  rcases rank_time firstIsNumber with ⟨firstBound, firstRank⟩
  rcases rank_time secondIsNumber with ⟨secondBound, secondRank⟩
  have firstFits : first.bits.toNat < 2 ^ 32 := first.bits.toNat_lt
  have secondFits : second.bits.toNat < 2 ^ 32 := second.bits.toNat_lt
  rw [firstRank, secondRank] at rankLess
  rw [UInt32.lt_iff_toNat_lt, toNat_orderKey, toNat_orderKey]
  by_contra notLess
  split_ifs at rankLess notLess with firstPositive secondPositive secondPositive
  · have notNearer : second.bits.toNat % 2 ^ 31 ≤ first.bits.toNat % 2 ^ 31 := by omega
    have farther := distance_le notNearer firstBound
    exact absurd rankLess farther.not_gt
  · have aboveZero := distance_nonneg firstBound
    have belowZero := neg_nonpos.mpr (distance_nonneg secondBound)
    exact absurd rankLess (belowZero.trans aboveZero).not_gt
  · omega
  · have notNearer : first.bits.toNat % 2 ^ 31 ≤ second.bits.toNat % 2 ^ 31 := by omega
    have farther := distance_le notNearer secondBound
    exact absurd rankLess (neg_le_neg farther).not_gt

end LayeredScene.Stamp
