/-!
# Shapes, coordinates and positions

A shape lists the lengths of the axes of an array, and its elements are numbered
in row-major order: the last axis runs fastest. A coordinate has one entry per
axis. Three functions relate coordinates to positions: the strides of a shape,
the offset of a coordinate under given strides, and the coordinate at a position.
The fourth walk over an array, coordinate by coordinate, is the odometer.

Lengths, counts and strides are machine words. Products are formed step by step, and
one that is no word ends the program: `count?` and `strides?` give nothing then. `count`
and `strides` are the same numbers over the naturals. An offset is not checked, for
inside a shape whose count is a word nothing that leads to it leaves the word.
-/

namespace LoopKernels

namespace Word

/-- The least number that is no machine word. -/
def limit : Nat := Nat.pow 2 64

/-- The product of two words, if it is a word. -/
def mul? (a b : Nat) : Option Nat := if a * b < limit then some (a * b) else none

end Word

/-- Lengths of the axes, first axis first. -/
abbrev Shape := List Nat

/-- One index per axis. -/
abbrev Coord := List Nat

namespace Shape

/-- Number of elements: the product of the lengths, taken from the left. -/
def count (shape : Shape) : Nat := shape.foldl (· * ·) 1

/-- Distance between neighbours along each axis of a row-major array: the
    product of the lengths behind it, taken from the right. -/
def strides : Shape → List Nat
  | [] => []
  | [_] => [1]
  | _ :: next :: rest =>
    match strides (next :: rest) with
    | [] => []
    | stride :: more => stride * next :: stride :: more

/-- The number of elements, multiplied up from the left in words. -/
def count? (shape : Shape) : Option Nat := shape.foldlM Word.mul? 1

/-- The strides, multiplied up from the right in words. -/
def strides? : Shape → Option (List Nat)
  | [] => some []
  | [_] => some [1]
  | _ :: next :: rest => do
    match ← strides? (next :: rest) with
    | [] => some []
    | stride :: more =>
      let product ← Word.mul? stride next
      some (product :: stride :: more)

/-- Position reached by a coordinate under strides. -/
def offset (coord : Coord) (strides : List Nat) : Nat :=
  (List.zipWith (· * ·) coord strides).foldl (· + ·) 0

/-- One axis of the division that finds a coordinate: what is left of the
    position, and the coordinate behind this axis. An empty axis counts as one
    of length one. -/
def unravelAxis (length : Nat) (state : Nat × Coord) : Nat × Coord :=
  (state.1 / max length 1, state.1 % max length 1 :: state.2)

/-- The coordinate at a position, found by dividing by the lengths from the last
    axis to the first. -/
def unravel (position : Nat) (shape : Shape) : Coord :=
  (shape.foldr unravelAxis (position, [])).2

/-- The coordinate lies inside the shape. -/
def contains : Shape → Coord → Bool
  | [], [] => true
  | length :: shape, index :: coord => index < length && contains shape coord
  | _, _ => false

end Shape

end LoopKernels
