import LoopKernels.Scalar.Arithmetic

/-!
# Scalar operators

An operator computes one scalar from a list of scalars. Twenty operators are
primitive. A composite operator is a straight-line program: its steps run in
order, and an operand of a step is an input, the value of an earlier step, or a
constant. Steps may themselves use composite operators.
-/

namespace LoopKernels

/-- The primitive operators. -/
inductive Primitive where
  | add
  | sub
  | mul
  | trueDiv
  | intDiv
  /-- Arithmetic mean of the operands; as a reduction, a running mean. -/
  | mean
  /-- A product that skips zeros. -/
  | mulWithoutZeros
  | maximum
  | minimum
  | and
  | or
  | xor
  | neg
  | abs
  | exp
  | log
  | sqrt
  | tanh
  | pow
  | identity
deriving DecidableEq, Repr

/-- How many operands an operator takes. -/
inductive Arity where
  | exactly (n : Nat)
  | atLeast (n : Nat)
deriving DecidableEq, Repr

namespace Arity

/-- The number of operands is one that the arity allows. -/
def accepts : Arity → Nat → Bool
  | exactly n, count => count == n
  | atLeast n, count => n ≤ count

/-- The arity in messages. -/
def text : Arity → String
  | exactly n => toString n
  | atLeast n => "at least " ++ toString n

end Arity

namespace Primitive

/-- All primitive operators in listing order. -/
def all : List Primitive :=
  [add, sub, mul, trueDiv, intDiv, mean, mulWithoutZeros, maximum, minimum, and, or, xor, neg,
    abs, exp, log, sqrt, tanh, pow, identity]

/-- The name of a primitive operator. -/
def name : Primitive → String
  | add => "add"
  | sub => "sub"
  | mul => "mul"
  | trueDiv => "true_div"
  | intDiv => "int_div"
  | mean => "mean"
  | mulWithoutZeros => "mul_without_zeros"
  | maximum => "maximum"
  | minimum => "minimum"
  | and => "and"
  | or => "or"
  | xor => "xor"
  | neg => "neg"
  | abs => "abs"
  | exp => "exp"
  | log => "log"
  | sqrt => "sqrt"
  | tanh => "tanh"
  | pow => "pow"
  | identity => "identity"

/-- The primitive operator with a given name. -/
def ofName? (text : String) : Option Primitive := all.find? fun p => p.name == text

/-- A primitive operator is found by its name. -/
theorem ofName?_name (p : Primitive) : ofName? p.name = some p := by
  cases p <;> decide

/-- How many operands a primitive operator takes. -/
def arity : Primitive → Arity
  | add | mul | mean | mulWithoutZeros | maximum | minimum | and | or | xor => .atLeast 1
  | sub | trueDiv | intDiv | pow => .exactly 2
  | neg | abs | exp | log | sqrt | tanh | identity => .exactly 1

/-- The neutral element that seeds a reduction, where the operator has one. An
    infinity stands for the least or greatest value of the accumulator's type. -/
def neutral : Primitive → Option Float
  | add | mean | or | xor | mulWithoutZeros => some 0
  | mul => some 1
  | and => some (-1)
  | maximum => some (-1 / 0)
  | minimum => some (1 / 0)
  | _ => none

/-- The operators on the bits of integers. -/
def isBitwise : Primitive → Bool
  | and | or | xor => true
  | _ => false

end Primitive

/-- What a step of a composite operator reads. -/
inductive Operand where
  | input (index : Nat)
  | step (index : Nat)
  | const (x : Float)
deriving DecidableEq, Repr

/-- A scalar operator. The steps of a composite pair an operator with its operands. -/
inductive Operator where
  | prim (p : Primitive)
  | composite (inputs : Nat) (steps : List (Operator × List Operand)) (output : Operand)
deriving Repr

/-- What can go wrong when an operator is applied. -/
inductive OperatorError where
  | arity (operator : String) (expected : Arity) (got : Nat)
  | elementType (operator : String) (e : ElemType)
  | undefinedInput (index : Nat)
  | undefinedStep (index : Nat)
  /-- The first operand is read where none was given. -/
  | noOperand
deriving DecidableEq, Repr

/-- The text of an operator error. -/
def OperatorError.message : OperatorError → String
  | arity operator expected got =>
    "scalar op " ++ operator ++ " expects " ++ expected.text ++ " argument(s), got " ++ toString got
  | elementType operator e => "scalar op " ++ operator ++ " does not support dtype " ++ e.name
  | undefinedInput index => "composite references undefined input " ++ toString index
  | undefinedStep index => "composite references undefined node " ++ toString index
  | noOperand => "index out of bounds: the first argument is missing"

namespace Operator

/-- What holds of primitive operators, and of a composite when it holds of the operators of its
    steps, holds of every operator. -/
@[elab_as_elim]
theorem induction {P : Operator → Prop} (prim : ∀ p, P (.prim p))
    (composite : ∀ inputs steps output, (∀ step ∈ steps, P step.1) →
      P (.composite inputs steps output)) (op : Operator) : P op :=
  @Operator.rec P (fun steps => ∀ step ∈ steps, P step.1) (fun step => P step.1) prim
    (fun inputs steps output each => composite inputs steps output each) (by simp)
    (fun _ _ first others => List.forall_mem_cons.mpr ⟨first, others⟩) (fun _ _ holds => holds) op

/-- The name of an operator; all composites share one. -/
def name : Operator → String
  | prim p => p.name
  | composite .. => "composite"

/-- How many operands an operator takes. -/
def arity : Operator → Arity
  | prim p => p.arity
  | composite inputs _ _ => .exactly inputs

/-- The value that leaves other operands as they are, if the operator has one. -/
def neutral : Operator → Option Float
  | prim p => p.neutral
  | composite .. => none

/-- The operator works on the bits of integers. -/
def isBitwise : Operator → Bool
  | prim p => p.isBitwise
  | composite .. => false

/-- Refuses a number of operands that the operator does not take. -/
def checkArity (op : Operator) (count : Nat) : Except OperatorError Unit :=
  if op.arity.accepts count then .ok () else .error (.arity op.name op.arity count)

end Operator

end LoopKernels
