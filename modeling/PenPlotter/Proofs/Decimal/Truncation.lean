import PenPlotter.Position

/-! Numbers that are cut to whole positions. The fields of a word are read as the standard describes them, so that what
a number is cut to is the conversion of its description to a signed 32-bit count. -/

namespace PenPlotter

open Float.Model UnpackedFloat

namespace Decimal.Binary

/-- A number by its description. -/
def ofUnpacked : UnpackedFloat → Binary
  | .notANumber => .nan
  | .infinity sign => .infinite (sign == .negative)
  | .zero sign => .finite (sign == .negative) 0 leastExponent
  | .finite sign mantissa exponent _ => .finite (sign == .negative) mantissa exponent

section Fields

variable (bits : BitVec 64)

theorem toNat_unpackMantissa :
    (@unpackMantissa .binary64 bits).toNat = bits.toNat % twoPow 52 := by
  unfold unpackMantissa
  rw [BitVec.toNat_cast,BitVec.extractLsb_toNat,Nat.shiftRight_zero]
  rfl

theorem toNat_unpackExponent :
    (@unpackExponent .binary64 bits).toNat = bits.toNat / twoPow 52 % twoPow 11 := by
  unfold unpackExponent
  rw [BitVec.toNat_cast,BitVec.extractLsb_toNat,Nat.shiftRight_eq_div_pow]
  rfl

theorem toNat_unpackSign : (@unpackSign .binary64 bits).toNat = bits.toNat / twoPow 63 := by
  have small := bits.isLt
  unfold unpackSign
  rw [BitVec.toNat_cast,BitVec.extractLsb_toNat,Nat.shiftRight_eq_div_pow]
  have bit : bits.toNat / twoPow 63 < 2 := Nat.div_lt_of_lt_mul small
  exact Nat.mod_eq_of_lt bit

theorem isNegative_unpackSign :
    (Sign.ofBitVec (@unpackSign .binary64 bits) == .negative) = decide (twoPow 63 ≤ bits.toNat) := by
  have bit := toNat_unpackSign bits
  by_cases negative : twoPow 63 ≤ bits.toNat
  · have one : @unpackSign .binary64 bits ≠ 0#1 := by
      intro zero
      rw [zero] at bit
      have positive : 0 < bits.toNat / twoPow 63 := Nat.div_pos negative (by decide)
      exact absurd bit (Nat.ne_of_lt positive)
    have sign : Sign.ofBitVec (@unpackSign .binary64 bits) = .negative := if_neg one
    rw [sign,decide_eq_true negative]
    rfl
  · have zero : @unpackSign .binary64 bits = 0#1 :=
      BitVec.eq_of_toNat_eq (bit.trans (Nat.div_eq_of_lt (Nat.lt_of_not_le negative)))
    have sign : Sign.ofBitVec (@unpackSign .binary64 bits) = .positive := if_pos zero
    rw [sign,decide_eq_false negative]
    rfl

end Fields

theorem ofBits_eq (bits : BitVec 64) :
    Binary.ofBits bits.toNat = ofUnpacked (UnpackedFloat.unpack Format.binary64 bits) := by
  have most : @unpackExponent .binary64 bits = -1#11 ↔
      (@unpackExponent .binary64 bits).toNat = 2047 := BitVec.toNat_inj.symm
  have least : @unpackExponent .binary64 bits = 0#11 ↔
      (@unpackExponent .binary64 bits).toNat = 0 := BitVec.toNat_inj.symm
  have none : @unpackMantissa .binary64 bits = 0#52 ↔
      (@unpackMantissa .binary64 bits).toNat = 0 := BitVec.toNat_inj.symm
  unfold Binary.ofBits
  simp only [← isNegative_unpackSign bits,← toNat_unpackMantissa bits,← toNat_unpackExponent bits]
  unfold UnpackedFloat.unpack
  dsimp only
  by_cases full : (@unpackExponent .binary64 bits).toNat = 2047
  · rw [if_pos full,if_pos (most.mpr full)]
    by_cases whole : (@unpackMantissa .binary64 bits).toNat = 0
    · rw [if_pos whole,if_pos (none.mpr whole)]
      rfl
    · rw [if_neg whole,if_neg (mt none.mp whole)]
      rfl
  · rw [if_neg full,if_neg (mt most.mp full)]
    by_cases empty : (@unpackExponent .binary64 bits).toNat = 0
    · rw [if_pos empty,if_pos (least.mpr empty)]
      by_cases whole : @unpackMantissa .binary64 bits = 0#52
      · rw [dif_pos whole,whole]
        rfl
      · rw [dif_neg whole,empty]
        rfl
    · -- The hidden bit stands in front of the fraction.
      have hidden : (1#1 ++ @unpackMantissa .binary64 bits).toNat =
          twoPow 52 + (@unpackMantissa .binary64 bits).toNat := by
        rw [BitVec.toNat_append,← Nat.shiftLeft_add_eq_or_of_lt (BitVec.isLt _)]
        rfl
      rw [if_neg empty,if_neg (mt least.mp empty)]
      dsimp only [ofUnpacked]
      rw [hidden]
      rfl

/-- A number is taken apart as it is described. -/
theorem ofFloat_eq (x : Float) : ofFloat x = ofUnpacked x.toModel.unpack := ofBits_eq x.toBits.toBitVec

theorem mantissa_shiftRight (count : Nat) (m : ExtendedMantissa) :
    (m >>> count).mantissa = m.mantissa / twoPow count := by
  induction count with
  | zero => exact (Nat.div_one _).symm
  | succ count ih =>
    have halved : (m >>> (count + 1)).mantissa = (m >>> count).mantissa / 2 := rfl
    rw [halved,ih,Nat.div_div_eq_div_mul]
    rfl

theorem roundToInt_eq (sign : Sign) (mantissa : Nat) (exponent : Int) :
    roundToInt sign mantissa exponent =
      sign.apply (mantissa * twoPow exponent.toNat / twoPow (-exponent).toNat : Nat) := by
  have up : (exponent - 0).toNat = exponent.toNat := by omega
  have down : (0 - (exponent - exponent.toNat)).toNat = (-exponent).toNat := by omega
  unfold roundToInt decreaseExponent shiftToExponent
  dsimp only
  rw [mantissa_shiftRight,up,down,Nat.shiftLeft_eq]
  rfl

end Decimal.Binary

namespace Position

theorem toInt_ofIntClamp (n : Int) : (Int32.ofIntClamp n).toInt = max minTicks (min n maxTicks) := by
  have least : Int32.minValue.toInt = minTicks := rfl
  have most : Int32.maxValue.toInt = maxTicks := rfl
  have ordered : minTicks ≤ maxTicks := by decide
  unfold Int32.ofIntClamp
  split
  · split
    · rw [Int32.toInt_ofIntLE]
      omega
    · rw [most]
      omega
  · rw [least]
    omega

/-- A number is cut toward zero. What is beyond the range counts as its end, and what is no number as 0. -/
theorem ticks_truncate (x : Float) : (truncate x : Position frame).ticks = x.toModel.toInt32.toInt := by
  unfold truncate Float.Model.toInt32 UnpackedFloat.toInt32
  rw [Decimal.Binary.ofFloat_eq,toInt_ofIntClamp]
  cases x.toModel.unpack with
  | notANumber => rfl
  | infinity sign => cases sign <;> rfl
  | zero sign =>
    dsimp only [Decimal.Binary.ofUnpacked,UnpackedFloat.toInt]
    rw [Nat.zero_mul,Nat.zero_div]
    cases sign <;> rfl
  | finite sign mantissa exponent =>
    dsimp only [Decimal.Binary.ofUnpacked,UnpackedFloat.toInt]
    rw [Decimal.Binary.roundToInt_eq]
    cases sign <;> rfl

example : (truncate (-12.59 / 0.1) : Raw).ticks = -125 := by decide +kernel
example : (truncate (0 / 0) : Raw).ticks = 0 := by decide +kernel
example : (truncate (1 / 0) : Raw).ticks = maxTicks := by decide +kernel

end Position
end PenPlotter
