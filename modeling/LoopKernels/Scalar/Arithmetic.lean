import LoopKernels.Scalar.Basic

/-!
# Arithmetic on scalars

A binary rule is given once for signed words, once for unsigned words and once
for doubles. The element type of the result and the operands choose the domain;
the raw result is then cast to the element type. Words wrap, and division of
integers by zero gives zero.
-/

namespace LoopKernels

/-- The arithmetic in which an operation is carried out before its result is cast. -/
inductive Domain where
  | signed
  | unsigned
  | float
deriving DecidableEq, Repr

/-- A float anywhere makes the domain float; otherwise the result type decides. -/
def Domain.ofOperands (e : ElemType) (a b : Scalar) : Domain :=
  if e.isFloat || a.isFloat || b.isFloat then .float
  else if e.isUnsigned then .unsigned
  else .signed

/-- The capitalised name of a domain. -/
def Domain.title : Domain → String
  | signed => "Signed"
  | unsigned => "Unsigned"
  | float => "Float"

/-- One binary operation, stated in every domain. -/
structure Rule where
  signed : Int64 → Int64 → Int64
  unsigned : UInt64 → UInt64 → UInt64
  float : Float → Float → Float

namespace Rule

/-- Computes in the domain of the operands and casts the result. -/
def apply (rule : Rule) (e : ElemType) (a b : Scalar) : Scalar :=
  let raw := match Domain.ofOperands e a b with
    | .float => Scalar.float (rule.float a.toFloat b.toFloat)
    | .unsigned => Scalar.uint (rule.unsigned a.toUInt64 b.toUInt64)
    | .signed => Scalar.int (rule.signed a.toInt64 b.toInt64)
  raw.cast e

/-- Sums wrap. -/
def add : Rule := ⟨(· + ·), (· + ·), (· + ·)⟩

/-- Differences wrap. -/
def sub : Rule := ⟨(· - ·), (· - ·), (· - ·)⟩

/-- Products wrap. -/
def mul : Rule := ⟨(· * ·), (· * ·), (· * ·)⟩

/-- Bitwise rules are for integers; met by floats they keep the first operand. -/
def and : Rule := ⟨(· &&& ·), (· &&& ·), fun x _ => x⟩

/-- Either bit. -/
def or : Rule := ⟨(· ||| ·), (· ||| ·), fun x _ => x⟩

/-- One bit but not both. -/
def xor : Rule := ⟨(· ^^^ ·), (· ^^^ ·), fun x _ => x⟩

/-- The quotient of signed words rounded toward minus infinity, zero for a zero
    divisor. The truncated quotient is one too large exactly when it is inexact
    and the signs differ. -/
def floorQuotient (a b : Int64) : Int64 :=
  if b = 0 then 0
  else if a % b ≠ 0 ∧ (a < 0) ≠ (b < 0) then a / b - 1
  else a / b

/-- Division rounded toward minus infinity. -/
def floorDiv : Rule := ⟨floorQuotient, (· / ·), fun x y => (x / y).floor⟩

end Rule

namespace Scalar

/-- Division of the two values as doubles. -/
def trueDiv (e : ElemType) (a b : Scalar) : Scalar :=
  (float (a.toFloat / b.toFloat)).cast e

/-- A product in which zero counts as absent: the other operand is the result. -/
def mulWithoutZeros (e : ElemType) (a b : Scalar) : Scalar :=
  if a.isZero then b.cast e
  else if b.isZero then a.cast e
  else Rule.mul.apply e a b

/-- The power of a word by repeated squaring, right for exponents below
    two to the number of squarings. -/
def wordPower : Nat → UInt64 → Nat → UInt64
  | 0, _, _ => 1
  | squarings + 1, base, exponent =>
    let rest := wordPower squarings (base * base) (exponent / 2)
    if exponent % 2 = 1 then base * rest else rest

/-- Integer exponents count up to 32 bits; a larger one counts as the greatest of these. -/
def exponentLimit : Nat := Nat.pow 2 32 - 1

/-- The base raised to the exponent. With a float anywhere, or with an exponent
    whose signed view is negative, both are taken as doubles; otherwise words wrap. -/
def power (e : ElemType) (base exponent : Scalar) : Scalar :=
  if e.isFloat || base.isFloat || exponent.isFloat || exponent.toInt64 < 0 then
    (float (base.toFloat.pow exponent.toFloat)).cast e
  else
    let count := min exponent.toUInt64.toNat exponentLimit
    if e.isUnsigned then (uint (wordPower 32 base.toUInt64 count)).cast e
    else (int (wordPower 32 base.toInt64.toUInt64 count).toInt64).cast e

end Scalar

end LoopKernels
