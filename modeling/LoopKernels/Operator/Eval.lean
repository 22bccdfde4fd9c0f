import LoopKernels.Operator.Basic

/-!
# Evaluation of scalar operators

Evaluation produces a value of a given element type. It refuses a wrong number
of operands first, and bitwise operators on floats next. Operators with any
number of operands fold from the left, starting at the first operand cast to the
element type. A composite evaluates each of its steps in the same element type
and casts its output.
-/

namespace LoopKernels

namespace Primitive

/-- Folds a list of operands from the left, the first one cast to the element type. -/
def foldOperands (e : ElemType) (step : Scalar → Scalar → Scalar) (first : Scalar)
    (rest : List Scalar) : Scalar :=
  rest.foldl step (first.cast e)

/-- The greater of two values; a NaN on either side wins. -/
def greater (e : ElemType) (a b : Scalar) : Scalar :=
  if a.isNaN || b.isNaN then (Scalar.float (0 / 0)).cast e
  else if a.below b then b.cast e
  else a.cast e

/-- The lesser of two values; a NaN on either side wins. -/
def lesser (e : ElemType) (a b : Scalar) : Scalar :=
  if a.isNaN || b.isNaN then (Scalar.float (0 / 0)).cast e
  else if a.above b then b.cast e
  else a.cast e

/-- The negated value at an element type; integers of both kinds wrap. -/
def negate (e : ElemType) : Scalar → Scalar
  | .float x => (Scalar.float (-x)).cast e
  | .uint n => (Scalar.uint (-n)).cast e
  | s => (Scalar.int (-s.toInt64)).cast e

/-- The absolute value; the least signed word is its own. -/
def absolute (e : ElemType) : Scalar → Scalar
  | .float x => (Scalar.float x.abs).cast e
  | .int n => (Scalar.int (if n < 0 then -n else n)).cast e
  | s => s.cast e

/-- The mean of the operands as doubles, summed from the left. -/
def meanOf (e : ElemType) (operands : List Scalar) : Scalar :=
  let total := operands.foldl (fun sum a => sum + a.toFloat) (-0.0)
  (Scalar.float (total / operands.length.toFloat)).cast e

/-- A function of doubles applied to one operand. -/
def viaFloat (e : ElemType) (f : Float → Float) (a : Scalar) : Scalar :=
  (Scalar.float (f a.toFloat)).cast e

/-- The value on a first operand and the rest, as many as the arity takes. -/
def evalOn (p : Primitive) (e : ElemType) (first : Scalar) (rest : List Scalar) : Scalar :=
  let second := rest.headD first
  match p with
  | add => foldOperands e (Rule.add.apply e) first rest
  | mul => foldOperands e (Rule.mul.apply e) first rest
  | sub => Rule.sub.apply e first second
  | trueDiv => Scalar.trueDiv e first second
  | intDiv => Rule.floorDiv.apply e first second
  | mean => meanOf e (first :: rest)
  | mulWithoutZeros => foldOperands e (Scalar.mulWithoutZeros e) first rest
  | maximum => foldOperands e (greater e) first rest
  | minimum => foldOperands e (lesser e) first rest
  | and => foldOperands e (Rule.and.apply e) first rest
  | or => foldOperands e (Rule.or.apply e) first rest
  | xor => foldOperands e (Rule.xor.apply e) first rest
  | neg => negate e first
  | abs => absolute e first
  | exp => viaFloat e Float.exp first
  | log => viaFloat e Float.log first
  | sqrt => viaFloat e Float.sqrt first
  | tanh => viaFloat e Float.tanh first
  | pow => Scalar.power e first second
  | identity => first.cast e

end Primitive

/-- The scalar an operand denotes among the inputs and the values of the steps so far. -/
def Operand.resolve (inputs values : List Scalar) : Operand → Except OperatorError Scalar
  | input i => match inputs[i]? with
    | some value => .ok value
    | none => .error (.undefinedInput i)
  | step i => match values[i]? with
    | some value => .ok value
    | none => .error (.undefinedStep i)
  | const x => .ok (.float x)

namespace Operator

/-- The refusals that precede every evaluation; what remains is a first operand
    and the rest. -/
def operands? (op : Operator) (args : List Scalar) (e : ElemType) :
    Except OperatorError (Scalar × List Scalar) := do
  op.checkArity args.length
  if op.isBitwise && (e.isFloat || args.any Scalar.isFloat) then
    throw (.elementType op.name e)
  match args with
  | [] => throw .noOperand
  | first :: rest => pure (first, rest)

mutual

/-- The value of an operator on a list of operands, of the given element type. -/
def eval : Operator → List Scalar → ElemType → Except OperatorError Scalar
  | prim p, args, e => do
    let (first, rest) ← (prim p).operands? args e
    pure (p.evalOn e first rest)
  | composite inputs steps output, args, e => do
    let _ ← (composite inputs steps output).operands? args e
    let values ← evalSteps steps args [] e
    let result ← output.resolve args values
    pure (result.cast e)
termination_by structural op => op

/-- Runs the steps in order, each on the inputs and the values before it. -/
def evalSteps : List (Operator × List Operand) → List Scalar → List Scalar → ElemType →
    Except OperatorError (List Scalar)
  | [], _, values, _ => pure values
  | step :: rest, inputs, values, e => do
    let value ← evalStep step inputs values e
    evalSteps rest inputs (values ++ [value]) e
termination_by structural steps => steps

/-- Runs one step. -/
def evalStep : Operator × List Operand → List Scalar → List Scalar → ElemType →
    Except OperatorError Scalar
  | (op, operands), inputs, values, e => do
    let args ← operands.mapM (Operand.resolve inputs values)
    op.eval args e
termination_by structural step => step

end

end Operator

end LoopKernels
