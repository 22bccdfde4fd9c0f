import LoopKernels.Kernel.Error
import LoopKernels.Text.Listing

/-!
# Updates of an accumulator

A reduction runs one statement per element: it replaces the accumulator by a
function of the accumulator and the element. The running mean also uses the
number of elements before this one, which is the counter of the enclosing loop.
Each update has a text, shown in listings, and a meaning.
-/

namespace LoopKernels

/-- The statements that accumulate. -/
inductive Update where
  | add
  | sub
  | mean
  | mul
  | mulWithoutZeros
  | and
  | or
  | xor
  | trueDiv
  | intDiv
  | max
  | min
deriving DecidableEq, Repr

namespace Update

/-- The capitalised name of an update. -/
def title : Update → String
  | add => "Add"
  | sub => "Sub"
  | mean => "Mean"
  | mul => "Mul"
  | mulWithoutZeros => "MulWithoutZeros"
  | and => "And"
  | or => "Or"
  | xor => "Xor"
  | trueDiv => "TrueDiv"
  | intDiv => "IntDiv"
  | max => "Max"
  | min => "Min"

/-- The name of the loop counter in listings. -/
def counter : String := "i"

/-- The update by which a primitive operator accumulates. -/
def ofPrimitive? : Primitive → Option Update
  | .add => some add
  | .sub => some sub
  | .mean => some mean
  | .mul => some mul
  | .mulWithoutZeros => some mulWithoutZeros
  | .and => some and
  | .or => some or
  | .xor => some xor
  | .trueDiv => some trueDiv
  | .intDiv => some intDiv
  | .maximum => some max
  | .minimum => some min
  | _ => none

/-- The update of an operator; no composite has one. -/
def ofOperator? : Operator → Option Update
  | .prim p => ofPrimitive? p
  | .composite .. => none

/-- The updates on the bits of integers. -/
def isBitwise : Update → Bool
  | and | or | xor => true
  | _ => false

/-- The update by which an operator accumulates into an element type; bitwise
    ones need an integer or truth-value type. -/
def ofOperator (op : Operator) (e : ElemType) : Except KernelError Update :=
  match ofOperator? op with
  | some update =>
    if update.isBitwise && e.isFloat then .error (.bitwiseUpdate op.name e) else .ok update
  | none => .error (.noUpdate op.name)

/-- A slot replaced by a value when a comparison holds. -/
def guarded (slot comparison value : String) : Listing :=
  [⟨0, "if (" ++ slot ++ " " ++ comparison ++ " " ++ value ++ ") \x7b"⟩,
    ⟨1, slot ++ " = " ++ value ++ ";"⟩, ⟨0, "\x7d"⟩]

/-- The lines that update a slot with a value. -/
def lines (u : Update) (slot value : String) : Listing :=
  match u with
  | add => [⟨0, slot ++ " += " ++ value ++ ";"⟩]
  | sub => [⟨0, slot ++ " -= " ++ value ++ ";"⟩]
  | mean =>
    [⟨0, slot ++ " += (" ++ value ++ " - " ++ slot ++ ") / (" ++ counter ++ " + 1);"⟩]
  | mul => [⟨0, slot ++ " *= " ++ value ++ ";"⟩]
  | mulWithoutZeros =>
    [⟨0, slot ++ " = " ++ slot ++ " == 0 ? " ++ value ++ " : (" ++ value ++ " == 0 ? " ++ slot ++
        " : " ++ slot ++ " * " ++ value ++ ");"⟩]
  | and => [⟨0, slot ++ " &= " ++ value ++ ";"⟩]
  | or => [⟨0, slot ++ " |= " ++ value ++ ";"⟩]
  | xor => [⟨0, slot ++ " ^= " ++ value ++ ";"⟩]
  | trueDiv => [⟨0, slot ++ " /= " ++ value ++ ";"⟩]
  | intDiv => [⟨0, slot ++ " = floor_divide(" ++ slot ++ ", " ++ value ++ ");"⟩]
  | max => guarded slot "<" value
  | min => guarded slot ">" value

/-- The statement that updates an array at an index with a value. -/
def statement (u : Update) (index array value : String) : String :=
  String.intercalate "\n" ((u.lines (array ++ "[" ++ index ++ "]") value).map fun line =>
    Line.margin line.depth ++ line.text)

/-- The running mean after one more element, the number of elements before it being given. -/
def runningMean (e : ElemType) (acc value : Scalar) (before : Nat) : Scalar :=
  let current := acc.toFloat
  let step := (value.toFloat - current) / ((UInt64.ofNat before).toFloat + 1)
  (Scalar.float (current + step)).cast e

/-- The accumulator after one more element; the counter starts at zero. -/
def apply (u : Update) (e : ElemType) (acc value : Scalar) (before : Nat) : Scalar :=
  match u with
  | add => Rule.add.apply e acc value
  | sub => Rule.sub.apply e acc value
  | mean => runningMean e acc value before
  | mul => Rule.mul.apply e acc value
  | mulWithoutZeros => Scalar.mulWithoutZeros e acc value
  | and => Rule.and.apply e acc value
  | or => Rule.or.apply e acc value
  | xor => Rule.xor.apply e acc value
  | trueDiv => Scalar.trueDiv e acc value
  | intDiv => Rule.floorDiv.apply e acc value
  | max => if acc.below value then value.cast e else acc
  | min => if acc.above value then value.cast e else acc

/-- The accumulator after the elements of a list, the number of elements before them being
    given. -/
def foldFrom (u : Update) (e : ElemType) : Nat → Scalar → List Scalar → Scalar
  | _, acc, [] => acc
  | before, acc, value :: rest => u.foldFrom e (before + 1) (u.apply e acc value before) rest

/-- The accumulator after all elements of a list. -/
def fold (u : Update) (e : ElemType) (seed : Scalar) (values : List Scalar) : Scalar :=
  u.foldFrom e 0 seed values

end Update

/-- The value that seeds an accumulator of an element type. Infinite doubles become the extremes
    of an integer type. -/
def Scalar.seed (s : Scalar) (e : ElemType) : Scalar :=
  match s with
  | float x => Scalar.clampedIdentity x e
  | other => other.cast e

end LoopKernels
