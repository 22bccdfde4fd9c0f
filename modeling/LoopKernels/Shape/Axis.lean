/-!
# Axes by number

An axis is given by its number, counted from the first axis, or from the end
when the number is negative. A list of axes names a set: an axis given twice
counts once, at its first place.
-/

namespace LoopKernels

/-- An axis that does not exist in an array of the given rank. -/
structure AxisError where
  axis : Int
  rank : Nat
deriving DecidableEq, Repr

/-- The text of an axis error. -/
def AxisError.message (error : AxisError) : String :=
  "axis " ++ toString error.axis ++ " is out of bounds for array of dimension " ++
    toString error.rank

namespace Axis

/-- The axis that a possibly negative number denotes. -/
def resolve (rank : Nat) (axis : Int) : Except AxisError Nat :=
  let counted := if axis < 0 then axis + rank else axis
  if counted < 0 ∨ (rank : Int) ≤ counted then .error ⟨axis, rank⟩ else .ok counted.toNat

/-- Resolves the axes one by one and keeps the first occurrence of each; the
    axes met so far are given in order. -/
def resolveInto (rank : Nat) (met : List Nat) : List Int → Except AxisError (List Nat)
  | [] => .ok met
  | axis :: rest => do
    let resolved ← resolve rank axis
    if resolved ∈ met then resolveInto rank met rest
    else resolveInto rank (met ++ [resolved]) rest

/-- The distinct axes denoted by a list of numbers, in order of first appearance. -/
def resolveAll (rank : Nat) (axes : List Int) : Except AxisError (List Nat) :=
  resolveInto rank [] axes

/-- Puts an axis before the first that it goes before. -/
def insertBy (before : Nat → Nat → Bool) (axis : Nat) : List Nat → List Nat
  | [] => [axis]
  | first :: rest =>
    if before axis first then axis :: first :: rest else first :: insertBy before axis rest

/-- The axes in the order given. -/
def sortBy (before : Nat → Nat → Bool) (axes : List Nat) : List Nat :=
  axes.foldr (insertBy before) []

/-- Of equal axes that follow one another the first stays. -/
def dropRepeats : List Nat → List Nat
  | first :: second :: rest =>
    if first = second then dropRepeats (second :: rest)
    else first :: dropRepeats (second :: rest)
  | axes => axes

/-- All axes of an array. -/
def every (rank : Nat) : List Nat := List.range rank

/-- The axes of an array that are not listed, in increasing order. -/
def others (rank : Nat) (axes : List Nat) : List Nat := (every rank).filter (· ∉ axes)

end Axis

end LoopKernels
