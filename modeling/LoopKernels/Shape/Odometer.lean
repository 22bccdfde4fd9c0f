import LoopKernels.Shape.Basic

/-!
# The odometer

Coordinates of a shape in row-major order, each from the one before: the last
axis advances, and an axis that has run out returns to zero and carries to the
axis on its left. A shape without axes has one coordinate, the empty one; a shape
with an empty axis has none.

The odometer is called again and again. The first call gives the first coordinate
as it is, every later one moves on, and the call that finds no axis left to move
gives nothing and ends the walk.
-/

namespace LoopKernels

namespace Shape

/-- The first coordinate. -/
def origin (shape : Shape) : Coord := List.replicate shape.length 0

/-- The coordinate after another one, nothing after the last. -/
def next? : Shape → Coord → Option Coord
  | length :: shape, index :: coord =>
    match next? shape coord with
    | some advanced => some (index :: advanced)
    | none => if index + 1 < length then some ((index + 1) :: origin shape) else none
  | _, _ => none

end Shape

/-- A walk over the coordinates of a shape. -/
structure Odometer where
  shape : Shape
  /-- The coordinate of the last call, or the first coordinate. -/
  current : Coord
  /-- No call has been made. -/
  first : Bool
  /-- All further calls give nothing. -/
  done : Bool
deriving DecidableEq, Repr

namespace Odometer

/-- The walk before its first call; over a shape with an empty axis it has ended. -/
def start (shape : Shape) : Odometer := ⟨shape, shape.origin, true, decide (0 ∈ shape)⟩

/-- One call: the coordinate it gives, and the walk after it. When every axis has run out, all
    of them have returned to zero. -/
def call (o : Odometer) : Option Coord × Odometer :=
  if o.done then (none, o)
  else if o.first then (some o.current, { o with first := false, done := o.shape.isEmpty })
  else
    match o.shape.next? o.current with
    | some advanced => (some advanced, { o with current := advanced })
    | none => (none, { o with current := o.shape.origin, done := true })

/-- What the calls give up to the first that gives nothing, in at most so many calls. -/
def collect : Nat → Odometer → List Coord
  | 0, _ => []
  | calls + 1, o =>
    match o.call with
    | (some coord, after) => coord :: collect calls after
    | (none, _) => []

end Odometer

/-- All coordinates of a shape in row-major order. There is a call for each of them and one
    more, which ends the walk. -/
def Shape.coordinates (shape : Shape) : List Coord :=
  (Odometer.start shape).collect (shape.count + 1)

end LoopKernels
