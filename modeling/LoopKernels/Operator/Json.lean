import LoopKernels.Operator.Basic
import LoopKernels.Json.Record

/-!
# Operators in JSON

A primitive operator is written as its name, a composite one as an object with
its number of inputs, its steps and its output. An operand is an object with one
member that says what it refers to.
-/

namespace LoopKernels

namespace Operand

/-- An operand as an object whose only member says what it refers to. -/
def toJson : Operand → Json
  | input i => .obj [("input", .ofNat i)]
  | step i => .obj [("node", .ofNat i)]
  | const x => .obj [("const", .num (.real x))]

/-- Reads an operand by its tag. -/
def ofJson? (value : Json) : Option Operand := do
  let (tag, payload) ← value.tagged?
  match tag with
  | "input" => payload.nat?.map input
  | "node" => payload.nat?.map step
  | "const" => payload.float?.map const
  | _ => none

end Operand

namespace Operator

mutual

/-- A primitive operator as its name, a composite one as a tagged record. -/
def toJson : Operator → Json
  | prim p => .str p.name
  | composite inputs steps output =>
    .obj [("composite", .obj [
      ("nin", .ofNat inputs), ("nodes", .arr (stepsToJson steps)), ("output", output.toJson)])]
termination_by structural op => op

/-- The steps of a composite. -/
def stepsToJson : List (Operator × List Operand) → List Json
  | [] => []
  | step :: rest => stepToJson step :: stepsToJson rest
termination_by structural steps => steps

/-- A step as a record of its operator and its operands. -/
def stepToJson : Operator × List Operand → Json
  | (op, operands) => .obj [("op", op.toJson), ("args", .list Operand.toJson operands)]
termination_by structural step => step

end

/-- A step, given the reading of its operator. -/
def stepOfJson? (operator : Json → Option Operator) (value : Json) :
    Option (Operator × List Operand) := do
  match ← value.fields? ["op", "args"] with
  | [some op, some args] => pure (← operator op, ← args.list? Operand.ofJson?)
  | _ => none

/-- A composite, given the reading of the operators of its steps. -/
def compositeOfJson? (operator : Json → Option Operator) (value : Json) : Option Operator := do
  match ← value.fields? ["nin", "nodes", "output"] with
  | [some inputs, some steps, some output] =>
    pure (composite (← inputs.nat?) (← steps.list? (stepOfJson? operator))
      (← Operand.ofJson? output))
  | _ => none

/-- Reads an operator whose composites are nested at most as deep as the first
    argument says. The flag is handed to the reading of constants. -/
def ofJsonWithin? (emptyObject : Bool) : Nat → Json → Option Operator
  | 0, _ => none
  | depth + 1, value =>
    match value.tagged? with
    | some ("composite", payload) => compositeOfJson? (ofJsonWithin? emptyObject depth) payload
    | _ => (value.constant? emptyObject >>= Primitive.ofName?).map prim

/-- Reads an operator. No value that can be read nests deeper than the limit. -/
def ofJson? (emptyObject : Bool) (value : Json) : Option Operator :=
  ofJsonWithin? emptyObject Json.nestingLimit value

end Operator

end LoopKernels
