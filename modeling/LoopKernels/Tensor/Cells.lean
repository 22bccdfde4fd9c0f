import LoopKernels.Scalar.Basic
import LoopKernels.Tensor.Error

/-!
# Cells

The elements of an array in storage, one kind of storage per family. Reading a
cell gives a scalar of the family; writing takes the family's view of a scalar
and does not wrap to an element type, which is the array's business.
-/

namespace LoopKernels

/-- The storage of an array, one kind for each family. -/
inductive Cells where
  | bool (cells : Array Bool)
  | signed (cells : Array Int64)
  | unsigned (cells : Array UInt64)
  | float (cells : Array Float)
deriving DecidableEq, Repr

namespace Cells

/-- The family that the storage is for. -/
def family : Cells → Family
  | bool _ => .bool
  | signed _ => .signed
  | unsigned _ => .unsigned
  | float _ => .float

/-- The number of cells. -/
def size : Cells → Nat
  | bool cells => cells.size
  | signed cells => cells.size
  | unsigned cells => cells.size
  | float cells => cells.size

/-- All cells as scalars, in order. -/
def toList : Cells → List Scalar
  | bool cells => cells.toList.map .bool
  | signed cells => cells.toList.map .int
  | unsigned cells => cells.toList.map .uint
  | float cells => cells.toList.map .float

/-- The cell at a position. -/
def get? (cells : Cells) (position : Nat) : Option Scalar :=
  match cells with
  | bool cells => cells[position]?.map .bool
  | signed cells => cells[position]?.map .int
  | unsigned cells => cells[position]?.map .uint
  | float cells => cells[position]?.map .float

/-- Storage of a family that holds the given scalars. -/
def collect (family : Family) (values : List Scalar) : Cells :=
  match family with
  | .bool => bool (values.map fun v => !v.isZero).toArray
  | .signed => signed (values.map Scalar.toInt64).toArray
  | .unsigned => unsigned (values.map Scalar.toUInt64).toArray
  | .float => float (values.map Scalar.toFloat).toArray

/-- Storage of a family that holds one scalar a number of times. -/
def filled (family : Family) (size : Nat) (value : Scalar) : Cells :=
  match family with
  | .bool => bool (Array.replicate size !value.isZero)
  | .signed => signed (Array.replicate size value.toInt64)
  | .unsigned => unsigned (Array.replicate size value.toUInt64)
  | .float => float (Array.replicate size value.toFloat)

/-- Writes one cell; there must be one at the position. -/
def set? (cells : Cells) (position : Nat) (value : Scalar) : Option Cells :=
  if position < cells.size then
    some <| match cells with
      | bool cells => bool (cells.setIfInBounds position !value.isZero)
      | signed cells => signed (cells.setIfInBounds position value.toInt64)
      | unsigned cells => unsigned (cells.setIfInBounds position value.toUInt64)
      | float cells => float (cells.setIfInBounds position value.toFloat)
  else none

/-- The entry at a position, which must exist. -/
def entry {α : Type} (entries : Array α) (position : Nat) : Except TensorError α :=
  match entries[position]? with
  | some a => .ok a
  | none => .error (.pastEnd position entries.size)

/-- The entries at the given positions, in the given order. -/
def entries {α : Type} (source : Array α) (positions : List Nat) : Except TensorError (Array α) :=
  (positions.mapM (entry source)).map List.toArray

/-- The cells at the given positions, in the given order; all must exist. -/
def gather (cells : Cells) (positions : List Nat) : Except TensorError Cells :=
  match cells with
  | bool cells => (entries cells positions).map bool
  | signed cells => (entries cells positions).map signed
  | unsigned cells => (entries cells positions).map unsigned
  | float cells => (entries cells positions).map float

/-- Same family and equal cells; a NaN equals nothing. -/
def equals : Cells → Cells → Bool
  | bool a, bool b => a == b
  | signed a, signed b => a == b
  | unsigned a, unsigned b => a == b
  | float a, float b => a == b
  | _, _ => false

end Cells

end LoopKernels
