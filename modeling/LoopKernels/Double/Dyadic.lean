/-!
# Doubles as exact binary fractions

A finite double is a sign and a fraction m · 2^q with naturals m below 2^53.
Everything the library decides about a double beyond arithmetic and comparison
(its integer part, whether it is integral, its single-precision neighbour, its
decimal digits) is decided on that fraction in exact integer arithmetic, so the
decisions are plain computations on the bits.

Infinities and NaN have no fraction. Where a function below is defined on them
all the same, its comment says what it gives.
-/

namespace LoopKernels

/-- A non-negative binary fraction, mantissa · 2^exponent. -/
structure Dyadic where
  mantissa : Nat
  exponent : Int
  /-- The gap to the next double below is half the gap to the next one above. -/
  narrowBelow : Bool
deriving DecidableEq, Repr

/-- Exponent field of the bits of a double. -/
def exponentField (bits : UInt64) : Nat := (bits.toNat / Nat.pow 2 52) % Nat.pow 2 11

/-- Fraction field of the bits of a double. -/
def fractionField (bits : UInt64) : Nat := bits.toNat % Nat.pow 2 52

/-- Sign of a double, also of a zero: true below. -/
def negativeBit (x : Float) : Bool := Nat.pow 2 63 ≤ x.toBits.toNat

/-- The magnitude of a finite double. An infinity reads as 2^1024. -/
def Dyadic.ofFloat (x : Float) : Dyadic :=
  let field := exponentField x.toBits
  let fraction := fractionField x.toBits
  if field = 0 then ⟨fraction, -1074, false⟩
  else ⟨Nat.pow 2 52 + fraction, (field : Int) - 1075, fraction == 0 && 1 < field⟩

/-- Largest natural below or equal to the fraction. -/
def Dyadic.floor (d : Dyadic) : Nat :=
  d.mantissa * Nat.pow 2 d.exponent.toNat / Nat.pow 2 (-d.exponent).toNat

/-- The fraction is a natural number. -/
def Dyadic.isNatural (d : Dyadic) : Bool :=
  d.mantissa * Nat.pow 2 d.exponent.toNat % Nat.pow 2 (-d.exponent).toNat == 0

/-- A double cut toward zero. NaN gives zero; an infinity gives a number beyond
    every 64-bit word. -/
def integerPart (x : Float) : Int :=
  if x.isNaN then 0
  else
    let magnitude := (Dyadic.ofFloat x).floor
    if negativeBit x then -(magnitude : Int) else magnitude

/-- A finite double without a fractional part. -/
def isIntegral (x : Float) : Bool := x.isFinite && (Dyadic.ofFloat x).isNatural

/-- A double cut toward zero and held at the ends of the signed range. -/
def floatToInt64 (x : Float) : Int64 :=
  Int64.ofInt (max (-(Nat.pow 2 63 : Int)) (min ((Nat.pow 2 63 : Int) - 1) (integerPart x)))

/-- A double cut toward zero and held at the ends of the unsigned range. -/
def floatToUInt64 (x : Float) : UInt64 :=
  UInt64.ofNat (min (Nat.pow 2 64 - 1) (integerPart x).toNat)

/-- The double nearest to a signed word, ties to even. -/
def int64ToFloat (n : Int64) : Float :=
  if n < 0 then -(-n).toUInt64.toFloat else n.toUInt64.toFloat

end LoopKernels
