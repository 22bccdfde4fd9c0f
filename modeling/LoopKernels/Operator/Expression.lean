import LoopKernels.Operator.Basic
import LoopKernels.Scalar.Text

/-!
# Operators as expressions

A listing shows an operator applied to argument texts. Arithmetic and bitwise
operators stand between their arguments in parentheses; the others are written
as calls. A composite is written out, its steps put in place of their uses.
-/

namespace LoopKernels

namespace Primitive

/-- Arguments in parentheses with a mark between them. -/
def between (mark : String) (args : List String) : String :=
  "(" ++ String.intercalate (" " ++ mark ++ " ") args ++ ")"

/-- The expression for a primitive operator; a missing argument shows as a question mark. -/
def expression (p : Primitive) (args : List String) : String :=
  let argument := fun i => args.getD i "?"
  match p with
  | add => between "+" args
  | sub => between "-" args
  | mul => between "*" args
  | trueDiv => between "/" args
  | and => between "&" args
  | or => between "|" args
  | xor => between "^" args
  | intDiv => "floor_divide(" ++ argument 0 ++ ", " ++ argument 1 ++ ")"
  | mean => "(" ++ String.intercalate " + " args ++ ") / " ++ toString args.length
  | neg => "(-" ++ argument 0 ++ ")"
  | identity => argument 0
  | _ => p.name ++ "(" ++ String.intercalate ", " args ++ ")"

end Primitive

/-- The text of an operand; one that is not defined shows as its name. -/
def Operand.text (inputs steps : List String) : Operand → String
  | input i => inputs.getD i ("in" ++ toString i)
  | step i => steps.getD i ("n" ++ toString i)
  | const x => (Scalar.float x).text

namespace Operator

mutual

/-- The expression for an operator on argument texts. -/
def expression : Operator → List String → String
  | prim p, args => p.expression args
  | composite _ steps output, args => output.text args (stepExpressions steps args [])
termination_by structural op => op

/-- The expressions of the steps, each with those before it put in place. -/
def stepExpressions : List (Operator × List Operand) → List String → List String → List String
  | [], _, written => written
  | step :: rest, inputs, written =>
    stepExpressions rest inputs (written ++ [stepExpression step inputs written])
termination_by structural steps => steps

/-- The expression of a step, with its operands written in place. -/
def stepExpression : Operator × List Operand → List String → List String → String
  | (op, operands), inputs, written => op.expression (operands.map (Operand.text inputs written))
termination_by structural step => step

end

end Operator

end LoopKernels
