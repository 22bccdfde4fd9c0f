import LoopKernels.Text.Classes

/-!
# Core signatures

A core signature names the trailing axes of each operand of a generalized
function, as in `(m,n),(n,p)->(m,p)`: the inputs in front of the arrow, the
outputs behind it. Rendering writes it without any white space.

When only the ranks of the operands are known, their core axes are named by
number: `i` or `o` for the side, then the number of the operand, then the number
of the axis.
-/

namespace LoopKernels

/-- Names of the core axes per operand. -/
structure CoreSignature where
  inputs : List (List String)
  outputs : List (List String)
deriving DecidableEq, Repr

namespace CoreSignature

/-- The names of one operand in parentheses. -/
def operandText (names : List String) : String := "(" ++ String.intercalate "," names ++ ")"

/-- The operands of one side. -/
def sideText (operands : List (List String)) : String :=
  String.intercalate "," (operands.map operandText)

/-- The signature as text. -/
def render (s : CoreSignature) : String := sideText s.inputs ++ "->" ++ sideText s.outputs

/-- A name that can be written in a signature. -/
def IsName (classes : CharClasses) (name : String) : Prop :=
  name ≠ "" ∧ ∀ c ∈ name.toList, classes.word c = true

instance (classes : CharClasses) (name : String) : Decidable (IsName classes name) :=
  @instDecidableAnd _ _ _ (List.decidableBAll (classes.word · = true) name.toList)

/-- A signature with at least one output whose names can all be written. -/
def WellFormed (classes : CharClasses) (s : CoreSignature) : Prop :=
  s.outputs ≠ [] ∧ ∀ operand ∈ s.inputs ++ s.outputs, ∀ name ∈ operand, IsName classes name

instance (classes : CharClasses) (s : CoreSignature) : Decidable (s.WellFormed classes) :=
  inferInstanceAs (Decidable (_ ∧ _))

/-- Names of the axes of one operand. -/
def generatedNames (side : String) (operand rank : Nat) : List String :=
  (List.range rank).map fun axis => side ++ toString operand ++ toString axis

/-- Names of the axes of all operands of one side. -/
def generatedSide (side : String) (ranks : List Nat) : List (List String) :=
  ranks.mapIdx fun operand rank => generatedNames side operand rank

/-- The signature with generated names for operands of the given ranks. -/
def generated (inputs outputs : List Nat) : CoreSignature :=
  ⟨generatedSide "i" inputs, generatedSide "o" outputs⟩

end CoreSignature

/-- What can be wrong with a signature or with the shapes bound to it. -/
inductive SignatureError where
  | format (text : String)
  | operandCount (signature : CoreSignature) (expected got : Nat)
  | coreRank (signature : CoreSignature) (operand expected got : Nat)
  | inconsistent (name : String) (first second : Nat)
deriving DecidableEq, Repr

/-- The text of an error. -/
def SignatureError.message : SignatureError → String
  | format text => "not a valid gufunc signature: " ++ text
  | operandCount signature expected got =>
    "signature " ++ signature.render ++ " expects " ++ toString expected ++
      " operand(s), got " ++ toString got
  | coreRank signature operand expected got =>
    "operand " ++ toString operand ++ " of signature " ++ signature.render ++
      " needs at least " ++ toString expected ++ " core dims, got " ++ toString got
  | inconsistent name first second =>
    "inconsistent size for core dimension '" ++ name ++ "': " ++ toString first ++ " vs " ++
      toString second

end LoopKernels
