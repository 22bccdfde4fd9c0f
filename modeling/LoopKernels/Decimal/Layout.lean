import LoopKernels.Decimal.Shortest

/-!
# How a decimal is laid out

The digits of a double are one decision and their layout another. A layout says
which exponents of the leading digit are written positionally; every other
decimal is written with one leading digit and an exponent. Positional text
always shows a point with a digit on both sides.
-/

namespace LoopKernels

/-- The decisions of one text format for doubles. -/
structure FloatLayout where
  /-- Which of two equally near shortest decimals is shown. -/
  tie : Tie
  /-- Exponents of the leading digit that are written positionally. -/
  isPositional : Int → Bool

namespace Decimal

/-- So many zeros in a row. -/
def zeros (count : Nat) : String := "".pushn '0' count

/-- Positional text with at least one digit on both sides of the point. -/
def positional (digits : String) (exponent : Int) : String :=
  let lead := (digits.length : Int) + exponent
  if 0 ≤ exponent then digits ++ zeros exponent.toNat ++ ".0"
  else if 0 < lead then
    (digits.take lead.toNat).toString ++ "." ++ (digits.drop lead.toNat).toString
  else "0." ++ zeros (-lead).toNat ++ digits

/-- Text with one leading digit and a signed exponent. -/
def scientific (digits : String) (exponent : Int) : String :=
  let lead := (digits.length : Int) + exponent - 1
  let fraction := (digits.drop 1).toString
  let point := if fraction.isEmpty then "" else "." ++ fraction
  let sign := if lead < 0 then "-" else "+"
  (digits.take 1).toString ++ point ++ "e" ++ sign ++ toString lead.natAbs

end Decimal

namespace FloatLayout

/-- Text of a decimal whose digits do not start with zero. -/
def decimalText (layout : FloatLayout) (d : Decimal) : String :=
  let digits := toString d.digits
  if layout.isPositional ((digits.length : Int) + d.exponent - 1) then
    Decimal.positional digits d.exponent
  else Decimal.scientific digits d.exponent

/-- Text of a finite double. A zero keeps its sign. -/
def text (layout : FloatLayout) (x : Float) : String :=
  let magnitude := Dyadic.ofFloat x
  let unsigned :=
    if magnitude.mantissa = 0 then "0.0"
    else layout.decimalText (magnitude.shortest layout.tie)
  if negativeBit x then "-" ++ unsigned else unsigned

end FloatLayout

end LoopKernels
