import LoopKernels.Shape.Axis

/-!
# Axis shuffles

A shuffle lists the axes of its output: each is an axis of the input or a fresh
axis of length one. Axes of the input that are not listed are dropped; they must
have length one when the shuffle runs. A shuffle is valid when every axis it
lists exists and is listed once.
-/

namespace LoopKernels

/-- An axis of the output of a shuffle. -/
inductive ShuffleEntry where
  | axis (number : Nat)
  | fresh
deriving DecidableEq, Repr

/-- A rearrangement of the axes of an array. -/
structure Shuffle where
  inputRank : Nat
  order : List ShuffleEntry
  /-- The output may share the buffer of the input. -/
  inplace : Bool
deriving DecidableEq, Repr

/-- Why a shuffle is not valid. -/
inductive ShuffleError where
  | missingAxis (axis rank : Nat)
  | repeatedAxis (axis : Nat)
deriving DecidableEq, Repr

/-- The text of a shuffle error. -/
def ShuffleError.message : ShuffleError → String
  | missingAxis axis rank =>
    "invalid dimshuffle: axis " ++ toString axis ++ " out of range for input of rank " ++
      toString rank
  | repeatedAxis axis => "invalid dimshuffle: axis " ++ toString axis ++ " appears more than once"

namespace Shuffle

/-- The axis of the input that an entry keeps. -/
def keptAxis : ShuffleEntry → Option Nat
  | .axis number => some number
  | .fresh => none

/-- Axes of the input that are kept, in output order. -/
def kept (s : Shuffle) : List Nat := s.order.filterMap keptAxis

/-- Axes of the input that are dropped. -/
def dropped (s : Shuffle) : List Nat := Axis.others s.inputRank s.kept

/-- The kept axes followed by the dropped ones. -/
def transposition (s : Shuffle) : List Nat := s.kept ++ s.dropped

/-- Places of the fresh axes in the output. -/
def freshPlaces (s : Shuffle) : List Nat :=
  (List.range s.order.length).filter fun place => s.order[place]? == some .fresh

/-- Checks the kept axes one by one, those in front of them being given. -/
def checkAxes (rank : Nat) : List Nat → List Nat → Except ShuffleError Unit
  | _, [] => .ok ()
  | seen, axis :: rest =>
    if rank ≤ axis then .error (.missingAxis axis rank)
    else if axis ∈ seen then .error (.repeatedAxis axis)
    else checkAxes rank (axis :: seen) rest

/-- Every kept axis exists and is kept once. -/
def validate (s : Shuffle) : Except ShuffleError Unit := checkAxes s.inputRank [] s.kept

end Shuffle

end LoopKernels
