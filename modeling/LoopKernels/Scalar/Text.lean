import LoopKernels.Scalar.Basic
import LoopKernels.Decimal.Layout
import LoopKernels.Json.Record
import LoopKernels.Text.Inspect

/-!
# Scalars as text

A listing shows a scalar as a literal. Doubles are positional, however long they
become, and always show a point; the values that have no digits are named.

In JSON, a scalar is an object with one member: its key names the representation and
its value is the scalar. An integer is accepted where a float is asked for.
-/

namespace LoopKernels

/-- Doubles in listings never show an exponent. -/
def listedFloat : FloatLayout where
  tie := .up
  isPositional := fun _ => true

namespace Scalar

/-- The text of a scalar. -/
def text : Scalar → String
  | bool b => Inspect.flag b
  | int n => toString n.toInt
  | uint n => toString n.toNat
  | float x =>
    if x.isNaN then "NAN"
    else if x.isInf then (if negativeBit x then "-INFINITY" else "INFINITY")
    else listedFloat.text x

/-- The literal for a value of an element type: single-precision numbers carry a mark. -/
def literal (s : Scalar) (e : ElemType) : String :=
  let value := s.cast e
  match value, e with
  | float x, .f32 => if x.isFinite then value.text ++ "f" else value.text
  | _, _ => value.text

/-- The scalar under the name of its representation. -/
def toJson : Scalar → Json
  | bool b => .obj [("Bool", .bool b)]
  | int n => .obj [("Int", .ofInt n.toInt)]
  | uint n => .obj [("UInt", .num (.natural n))]
  | float x => .obj [("Float", .num (.real x))]

/-- The scalar that an object with one member holds. -/
def ofJson? (value : Json) : Option Scalar := do
  let (tag, payload) ← value.tagged?
  match tag with
  | "Bool" => payload.bool?.map bool
  | "Int" => payload.int?.map fun n => int (Int64.ofInt n)
  | "UInt" => payload.nat?.map fun n => uint (UInt64.ofNat n)
  | "Float" => payload.float?.map float
  | _ => none

end Scalar

end LoopKernels
