import LoopKernels.Double.Dyadic

/-!
# The fewest decimal digits that read back

A double stands for all reals that round to it: an interval from halfway to the
double below to halfway to the double above, with its ends when the mantissa is
even. The decimal chosen for a double is the one with the fewest digits in that
interval, and of two such the nearer one; when both are equally near, the tie
rule of the caller decides. All comparisons are on naturals.
-/

namespace LoopKernels

/-- The number digits · 10^exponent. -/
structure Decimal where
  digits : Nat
  exponent : Int
deriving DecidableEq, Repr

/-- Which of two equally near decimals is taken. -/
inductive Tie where
  | toEven
  | up
deriving DecidableEq, Repr

namespace Decimal

/-- Compares digits · 10^exponent with mantissa · 2^power exactly. -/
def compareTo (d : Decimal) (mantissa : Nat) (power : Int) : Ordering :=
  compare (d.digits * Nat.pow 10 d.exponent.toNat * Nat.pow 2 (-power).toNat)
    (mantissa * Nat.pow 2 power.toNat * Nat.pow 10 (-d.exponent).toNat)

end Decimal

namespace Dyadic

/-- The decimal lies among the reals that round to the fraction. Both ends of
    that interval are whole numbers of quarters of the last bit. -/
def readsBack (x : Dyadic) (d : Decimal) : Bool :=
  let least := if x.narrowBelow then 4 * x.mantissa - 1 else 4 * x.mantissa - 2
  let greatest := 4 * x.mantissa + 2
  let included := x.mantissa % 2 == 0
  let lower := d.compareTo least (x.exponent - 2)
  let upper := d.compareTo greatest (x.exponent - 2)
  (lower == .gt || (included && lower == .eq)) && (upper == .lt || (included && upper == .eq))

/-- Least k with the fraction below 10^k, for a fraction other than zero. It is
    estimated from the binary logarithm and settled by exact comparison. -/
def decimalScale (x : Dyadic) : Int :=
  let estimate := ((x.mantissa.log2 : Int) + x.exponent) * 30103 / 100000
  let candidates := [estimate, estimate + 1, estimate + 2]
  (candidates.find? fun k => Decimal.compareTo ⟨1, k⟩ x.mantissa x.exponent == .gt).getD
    (estimate + 3)

/-- The fraction in units of 10^grid, rounded down. -/
def floorOnGrid (x : Dyadic) (grid : Int) : Nat :=
  x.mantissa * Nat.pow 2 x.exponent.toNat * Nat.pow 10 (-grid).toNat /
    (Nat.pow 2 (-x.exponent).toNat * Nat.pow 10 grid.toNat)

/-- Of two neighbours on a grid that both read back, the nearer one. -/
def nearer (x : Dyadic) (tie : Tie) (grid : Int) (low : Nat) : Nat :=
  match Decimal.compareTo ⟨2 * low + 1, grid⟩ (2 * x.mantissa) x.exponent, tie with
  | .lt, _ => low + 1
  | .gt, _ => low
  | .eq, .up => low + 1
  | .eq, .toEven => if low % 2 = 0 then low else low + 1

/-- The decimal on one grid that reads back, if there is one. Only the two
    neighbours of the fraction on the grid come into question. -/
def onGrid? (x : Dyadic) (tie : Tie) (grid : Int) : Option Decimal :=
  let low := x.floorOnGrid grid
  match x.readsBack ⟨low, grid⟩, x.readsBack ⟨low + 1, grid⟩ with
  | true, true => some ⟨x.nearer tie grid low, grid⟩
  | true, false => some ⟨low, grid⟩
  | false, true => some ⟨low + 1, grid⟩
  | false, false => none

/-- The exact decimal value of the fraction. -/
def exactDecimal (x : Dyadic) : Decimal :=
  ⟨x.mantissa * Nat.pow 2 x.exponent.toNat * Nat.pow 5 (-x.exponent).toNat, min x.exponent 0⟩

end Dyadic

/-- Moves factors ten from the digits into the exponent, at most as many as the
    first argument says. -/
def Decimal.strip : Nat → Decimal → Decimal
  | 0, d => d
  | steps + 1, d =>
    if d.digits % 10 = 0 ∧ d.digits ≠ 0 then strip steps ⟨d.digits / 10, d.exponent + 1⟩ else d

/-- The shortest decimal that reads back as a fraction other than zero.
    Seventeen digits are enough for every double; the exact value stands behind
    the search. -/
def Dyadic.shortest (x : Dyadic) (tie : Tie) : Decimal :=
  let scale := x.decimalScale
  let found := (List.range 17).findSome? fun n => x.onGrid? tie (scale - (n + 1 : Nat))
  (found.getD x.exactDecimal).strip 17

end LoopKernels
