import LoopKernels.Double.Dyadic

/-!
# Rounding to single precision

The single-precision value nearest to a double, ties to even, as a double again.
A single has 24 bits of precision, no bit below 2^-149, and no finite value from
2^128 on.
-/

namespace LoopKernels

/-- A quotient rounded to the nearest natural, a tie to the even one. -/
def roundToEven (numerator denominator : Nat) : Nat :=
  let quotient := numerator / denominator
  let remainder := numerator % denominator
  if 2 * remainder < denominator then quotient
  else if denominator < 2 * remainder then quotient + 1
  else if quotient % 2 = 0 then quotient
  else quotient + 1

namespace Dyadic

/-- Exponent of the last bit a single keeps of this fraction. -/
def singleUnit (d : Dyadic) : Int :=
  max ((d.mantissa.log2 : Int) + d.exponent - 23) (-149)

/-- The fraction in units of the last bit a single keeps of it, rounded to the
    nearest, a tie to the even count. -/
def singleCount (d : Dyadic) : Nat :=
  let shift := d.exponent - d.singleUnit
  roundToEven (d.mantissa * Nat.pow 2 shift.toNat) (Nat.pow 2 (-shift).toNat)

end Dyadic

/-- Bits of the positive double count · 2^unit, for a count below 2^53 whose
    leading bit lies in the range of normal doubles. -/
def normalBits (count : Nat) (unit : Int) : Nat :=
  let top := count.log2
  ((top : Int) + unit + 1023).toNat * Nat.pow 2 52 + (count - Nat.pow 2 top) * Nat.pow 2 (52 - top)

/-- Bits of positive infinity. -/
def infinityBits : Nat := 2047 * Nat.pow 2 52

/-- The nearest single-precision value, held as a double. NaN and the infinities
    stay as they are. -/
def toSingle (x : Float) : Float :=
  if x.isNaN || x.isInf then x
  else
    let magnitude := Dyadic.ofFloat x
    let count := magnitude.singleCount
    let unit := magnitude.singleUnit
    let bits :=
      if count = 0 then 0
      else if 128 ≤ (count.log2 : Int) + unit then infinityBits
      else normalBits count unit
    Float.ofBits (UInt64.ofNat (if negativeBit x then Nat.pow 2 63 + bits else bits))

end LoopKernels
