import LoopKernels.Gufunc.Signature

/-!
# Binding names to lengths

The names of an operand stand for the lengths of its last axes. Binding walks
the operands in order and gives each name the length at its first place; a later
place must agree. Axes in front of the named ones are free.
-/

namespace LoopKernels.CoreSignature

/-- Lengths given to names, in the order in which the names appeared. -/
abbrev Binding := List (String × Nat)

/-- Gives a name a length, or checks the length it already has. -/
def bindName (binding : Binding) (name : String) (length : Nat) :
    Except SignatureError Binding :=
  match binding.lookup name with
  | some first => if first = length then .ok binding else .error (.inconsistent name first length)
  | none => .ok (binding ++ [(name, length)])

/-- Binds the names of one operand to lengths, pair by pair. -/
def bindNames : Binding → List (String × Nat) → Except SignatureError Binding
  | binding, [] => .ok binding
  | binding, (name, length) :: rest => do
    let extended ← bindName binding name length
    bindNames extended rest

/-- Binds operand after operand, the first of which has the given number. -/
def bindOperands (s : CoreSignature) :
    Nat → Binding → List (List String × List Nat) → Except SignatureError Binding
  | _, binding, [] => .ok binding
  | number, binding, (names, shape) :: rest => do
    if shape.length < names.length then
      throw (.coreRank s number names.length shape.length)
    let extended ← bindNames binding (names.zip (shape.drop (shape.length - names.length)))
    s.bindOperands (number + 1) extended rest

/-- The lengths of all names, from one shape per input. -/
def bind (s : CoreSignature) (shapes : List (List Nat)) : Except SignatureError Binding :=
  if shapes.length ≠ s.inputs.length then
    .error (.operandCount s s.inputs.length shapes.length)
  else s.bindOperands 0 [] (s.inputs.zip shapes)

end LoopKernels.CoreSignature
