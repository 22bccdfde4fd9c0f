import LoopKernels.Element
import LoopKernels.Double.Single

/-!
# Scalars

One element, read from an array or written to it, held in the widest
representation of its family. The element type that owns a value decides where
integers wrap and whether a float is rounded to single precision; `cast` applies
that decision. Comparison is numeric across families and has no answer when a
NaN takes part.
-/

namespace LoopKernels

/-- A single dynamically typed value. -/
inductive Scalar where
  | bool (b : Bool)
  | int (n : Int64)
  | uint (n : UInt64)
  | float (x : Float)
deriving DecidableEq, Repr

namespace Scalar

/-- The scalar is a float. -/
def isFloat : Scalar → Bool
  | float _ => true
  | _ => false

/-- The scalar is zero of its kind; a flag is zero when it is false. -/
def isZero : Scalar → Bool
  | bool b => !b
  | int n => n == 0
  | uint n => n == 0
  | float x => x == 0

/-- The scalar is a float that is not a number. -/
def isNaN : Scalar → Bool
  | float x => x.isNaN
  | _ => false

/-- The value as a double, rounded to the nearest where it is not exact. -/
def toFloat : Scalar → Float
  | bool b => if b then 1 else 0
  | int n => int64ToFloat n
  | uint n => n.toFloat
  | float x => x

/-- The value as a signed word: floats are cut toward zero and stop at the ends
    of the range, unsigned words are reinterpreted. -/
def toInt64 : Scalar → Int64
  | bool b => if b then 1 else 0
  | int n => n
  | uint n => n.toInt64
  | float x => floatToInt64 x

/-- The value as an unsigned word: signed words are reinterpreted, and so is the
    signed view of a negative float. -/
def toUInt64 : Scalar → UInt64
  | bool b => if b then 1 else 0
  | int n => n.toUInt64
  | uint n => n
  | float x => if x < 0 then (floatToInt64 x).toUInt64 else floatToUInt64 x

/-- The exact integer held by a value that is no float. -/
def integer? : Scalar → Option Int
  | bool b => some (if b then 1 else 0)
  | int n => some n.toInt
  | uint n => some n.toNat
  | float _ => none

/-- The value in the representation of an element type. Integers wrap to the
    width of the type, `f32` rounds to single precision, and a truth value says
    whether the value differs from zero. -/
def cast (s : Scalar) : ElemType → Scalar
  | .bool => bool (!s.isZero)
  | .i8 => int s.toInt64.toInt8.toInt64
  | .i16 => int s.toInt64.toInt16.toInt64
  | .i32 => int s.toInt64.toInt32.toInt64
  | .i64 => int s.toInt64
  | .u8 => uint s.toUInt64.toUInt8.toUInt64
  | .u16 => uint s.toUInt64.toUInt16.toUInt64
  | .u32 => uint s.toUInt64.toUInt32.toUInt64
  | .u64 => uint s.toUInt64
  | .f32 => float (toSingle s.toFloat)
  | .f64 => float s.toFloat

/-- A NaN has no place among the doubles. -/
def floatOrder (x y : Float) : Option Ordering :=
  if x < y then some .lt
  else if x == y then some .eq
  else if y < x then some .gt
  else none

/-- Numeric order. Two values of which neither is a float compare exactly; with
    a float among them both compare as doubles. -/
def order (a b : Scalar) : Option Ordering :=
  match a.integer?, b.integer? with
  | some m, some n => some (compare m n)
  | _, _ => floatOrder a.toFloat b.toFloat

/-- The order says less; unordered scalars are not below each other. -/
def below (a b : Scalar) : Bool := a.order b == some .lt

/-- The order says greater; unordered scalars are not above each other. -/
def above (a b : Scalar) : Bool := a.order b == some .gt

/-- Same representation and same value. A NaN equals nothing and the two zeros
    are equal. -/
def equals : Scalar → Scalar → Bool
  | bool a, bool b => a == b
  | int a, int b => a == b
  | uint a, uint b => a == b
  | float a, float b => a == b
  | _, _ => false

/-- The value of an element type that stands for a nominal, possibly infinite
    neutral element. A type without infinities takes its least or greatest value
    for them; an integral value is cast as an integer. -/
def clampedIdentity (x : Float) (e : ElemType) : Scalar :=
  match x.isInf, e.bounds with
  | true, some (least, greatest) =>
    let bound := if 0 < x then greatest else least
    match e.family with
    | .bool => bool (bound != 0)
    | .unsigned => uint (UInt64.ofNat bound.toNat)
    | _ => int (Int64.ofInt bound)
  | _, _ =>
    if isIntegral x && !e.isFloat then (int (floatToInt64 x)).cast e
    else (float x).cast e

end Scalar

end LoopKernels
