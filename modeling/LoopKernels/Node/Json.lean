import LoopKernels.Node.Basic
import LoopKernels.Operator.Json
import LoopKernels.Json.Writer

/-!
# Stored nodes

A node is stored as a JSON object with its operator and the types of its inputs
and outputs. The operator is an object whose member `kind` says which one it is;
it may stand anywhere among the members. Writing puts all fields in order and
writes defaults out. Reading is strict about types, ranges and repeated fields,
ignores unknown members, and does not check that a node makes sense. All of the
operator must be readable, its unknown members included; of a node and of a type
only the members that count are looked at.
-/

namespace LoopKernels

namespace ElemType

/-- An element type as its code. -/
def toJson (e : ElemType) : Json := .str e.code

/-- Reads an element type, whose code is a constant. -/
def ofJson? (emptyObject : Bool) (value : Json) : Option ElemType :=
  value.constant? emptyObject >>= ofCode?

end ElemType

namespace TensorType

/-- A type as a record of its element type, lengths and pattern. -/
def toJson (t : TensorType) : Json :=
  .obj [("dtype", t.elem.toJson), ("shape", .list (.option .ofNat) t.shape),
    ("broadcastable", .list .bool t.broadcastable)]

/-- Reads a type; none of its fields may be left out. -/
def ofJson? (value : Json) : Option TensorType := do
  match ← value.fields? ["dtype", "shape", "broadcastable"] with
  | [some elem, some shape, some broadcastable] =>
    pure ⟨← ElemType.ofJson? false elem, ← shape.list? (Json.option? Json.nat?),
      ← broadcastable.list? Json.bool?⟩
  | _ => none

end TensorType

namespace ReuseMap

/-- A pair of an output and an input as an array of two numbers. -/
def pairToJson (pair : Nat × Nat) : Json := .arr [.ofNat pair.1, .ofNat pair.2]

/-- Reads a pair of an output and an input. -/
def pairOfJson? : Json → Option (Nat × Nat)
  | .arr [output, input] => do pure (← output.nat?, ← input.nat?)
  | _ => none

/-- A map as the array of its pairs. -/
def toJson (m : ReuseMap) : Json := .list pairToJson m.pairs

/-- Reads a map; of two pairs for one output the later counts. -/
def ofJson? (value : Json) : Option ReuseMap := (value.list? pairOfJson?).map ofPairs

end ReuseMap

namespace ShuffleEntry

/-- An axis of the input as a tagged number, a fresh axis as a constant. -/
def toJson : ShuffleEntry → Json
  | axis number => .obj [("axis", .ofNat number)]
  | fresh => .str "augment"

/-- Reads an entry of a shuffle. -/
def ofJson? (value : Json) : Option ShuffleEntry :=
  match value.tagged? with
  | some ("axis", payload) => payload.nat?.map axis
  | _ => if value.constant? true = some "augment" then some fresh else none

end ShuffleEntry

namespace Shuffle

/-- The fields of a shuffle in order. -/
def members (s : Shuffle) : List (String × Json) :=
  [("input_ndim", .ofNat s.inputRank), ("new_order", .list ShuffleEntry.toJson s.order),
    ("inplace", .bool s.inplace)]

/-- Reads the fields of a shuffle; it does not reuse the buffer unless it says so. -/
def ofFields? (fields : Json.Fields) : Option Shuffle := do
  match ← fields.read? ["input_ndim", "new_order", "inplace"] with
  | [some rank, some order, inplace] =>
    pure ⟨← rank.nat?, ← order.list? ShuffleEntry.ofJson?,
      ← Json.defaulted? false Json.bool? inplace⟩
  | _ => none

end Shuffle

namespace Op

/-- The kind under which an operator is stored. -/
def tag : Op → String
  | elementwise .. => "elemwise"
  | reduce .. => "ca_reduce"
  | sum .. => "sum"
  | shuffle .. => "dim_shuffle"
  | softmax .. => "softmax"
  | logSoftmax .. => "log_softmax"
  | softmaxGrad .. => "softmax_grad"
  | argmax .. => "argmax"

/-- The fields of an operator in order, without its kind. -/
def members : Op → List (String × Json)
  | elementwise operator reuse =>
    [("scalar_op", operator.toJson), ("inplace_pattern", reuse.toJson)]
  | reduce operator axes accumulator =>
    [("scalar_op", operator.toJson), ("axis", .option (.list .ofInt) axes),
      ("acc_dtype", .option ElemType.toJson accumulator)]
  | sum axes accumulator =>
    [("axis", .option (.list .ofInt) axes), ("acc_dtype", .option ElemType.toJson accumulator)]
  | shuffle s => s.members
  | softmax axis | logSoftmax axis | softmaxGrad axis => [("axis", .option .ofInt axis)]
  | argmax axes => [("axis", .option (.list .ofNat) axes)]

/-- An operator as a record that begins with its kind. -/
def toJson (op : Op) : Json := .obj (("kind", .str op.tag) :: op.members)

/-- The only field of an operator, which may be left out of an object but not of a list. -/
def axisField? {α : Type} (decode : Json → Option α) (fields : Json.Fields) :
    Option (Option α) := do
  match fields, ← fields.read? ["axis"] with
  | .listed [], _ => none
  | _, [axis] => Json.optional? decode axis
  | _, _ => none

/-- Reads a list of axes, which may count from the end. -/
def axes? (value : Json) : Option (List Int) := value.list? Json.int?

/-- The operator of a kind with the given fields. -/
def ofFields? (kind : String) (fields : Json.Fields) : Option Op :=
  match kind with
  | "elemwise" => do
    match ← fields.read? ["scalar_op", "inplace_pattern"] with
    | [some operator, reuse] =>
      pure (elementwise (← Operator.ofJson? true operator)
        (← Json.defaulted? ReuseMap.empty ReuseMap.ofJson? reuse))
    | _ => none
  | "ca_reduce" => do
    match ← fields.read? ["scalar_op", "axis", "acc_dtype"] with
    | [some operator, axes, accumulator] =>
      pure (reduce (← Operator.ofJson? true operator) (← Json.optional? axes? axes)
        (← Json.optional? (ElemType.ofJson? true) accumulator))
    | _ => none
  | "sum" => do
    match ← fields.read? ["axis", "acc_dtype"] with
    | [axes, accumulator] =>
      pure (sum (← Json.optional? axes? axes)
        (← Json.optional? (ElemType.ofJson? true) accumulator))
    | _ => none
  | "dim_shuffle" => (Shuffle.ofFields? fields).map shuffle
  | "softmax" => (axisField? Json.int? fields).map softmax
  | "log_softmax" => (axisField? Json.int? fields).map logSoftmax
  | "softmax_grad" => (axisField? Json.int? fields).map softmaxGrad
  | "argmax" => (axisField? (Json.list? Json.nat?) fields).map argmax
  | _ => none

/-- The kind of an operator and its other fields. -/
def kindAndFields? : Json → Option (String × Json.Fields)
  | .obj members => do
    match ← Json.Fields.single? members "kind" with
    | some (.str kind) => pure (kind, .named (members.filter fun entry => entry.1 != "kind"))
    | _ => none
  | .arr (.str kind :: items) => some (kind, .listed items)
  | _ => none

/-- Reads an operator by its kind. -/
def ofJson? (value : Json) : Option Op := do
  let (kind, fields) ← kindAndFields? value
  ofFields? kind fields

end Op

namespace Node

/-- A node as a record of its operator and the types around it. -/
def toJson (node : Node) : Json :=
  .obj [("op", node.op.toJson), ("inputs", .list TensorType.toJson node.inputs),
    ("outputs", .list TensorType.toJson node.outputs)]

/-- Reads a node; all of its operator must be readable. -/
def ofJson? (value : Json) : Option Node := do
  match ← value.fields? ["op", "inputs", "outputs"] with
  | [some op, some inputs, some outputs] =>
    guard (op.readable (Json.nestingLimit - 1))
    pure ⟨← Op.ofJson? op, ← inputs.list? TensorType.ofJson?, ← outputs.list? TensorType.ofJson?⟩
  | _ => none

/-- The text of a node in a format. -/
def storeIn (format : Json.Format) (node : Node) : String := format.write node.toJson

/-- Reads a node that was stored in a format. -/
def loadFrom? (format : Json.Format) (text : String) : Option Node :=
  format.read? text >>= ofJson?

/-- The stored text of a node, one entry a line. -/
def store (node : Node) : String := node.storeIn .lines

/-- The stored text of a node without blanks. -/
def storeCompact (node : Node) : String := node.storeIn .dense

/-- Reads a stored node, whichever of the two texts it is given. -/
def load? (text : String) : Option Node := loadFrom? .lines text

end Node

end LoopKernels
