import LoopKernels.Text.Inspect

/-!
# Lengths known in advance

Before arrays exist, the length of an axis may be known or not. Static
broadcasting finds the common length of one axis from what is known, leaves it
open when only a run can tell, and refuses lengths that no run could reconcile.
-/

namespace LoopKernels

/-- Known lengths of one axis that cannot be broadcast together. -/
structure StaticLengthError where
  lengths : List (Option Nat)
deriving DecidableEq, Repr

/-- The text of an error about static lengths. -/
def StaticLengthError.message (error : StaticLengthError) : String :=
  "incompatible static dimension lengths " ++
    Inspect.list (Inspect.option Inspect.nat) error.lengths

namespace StaticLength

/-- The entries of a list without repetitions. -/
def distinct (lengths : List (Option Nat)) : List (Option Nat) := lengths.eraseDups

/-- The known lengths other than one, without repetitions. -/
def significant (lengths : List (Option Nat)) : List Nat :=
  ((distinct lengths).filterMap id).filter (· ≠ 1)

/-- The common length of one axis. A single distinct entry is the answer itself.
    Otherwise the lengths other than one decide: none of them leaves the length
    open, exactly one is the length, and two refuse. -/
def broadcast (lengths : List (Option Nat)) : Except StaticLengthError (Option Nat) :=
  match distinct lengths with
  | [entry] => .ok entry
  | _ =>
    match significant lengths with
    | [] => .ok none
    | [length] => .ok (some length)
    | _ => .error ⟨lengths⟩

end StaticLength

end LoopKernels
