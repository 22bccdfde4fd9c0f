import LoopKernels.Kernel.Options
import LoopKernels.Kernel.Signature
import LoopKernels.Text.Listing

/-!
# Kernels

A definition says what a kernel is called, which loops it lists and what running
it gives. A kernel is a definition compiled with options and possibly with a
signature. Its source is a heading followed by the listing, and its fingerprint
is the hash of the source.

Compiling reports the kernel and its source, after the kernels it is built from.

Most kernels take one array and give one array, and most nodes have one input and one
output; arguments or a node of another form are refused by name.
-/

namespace LoopKernels

/-- A kernel that is not compiled yet. -/
structure Definition where
  name : String
  /-- The family of kernels it belongs to. -/
  label : String
  listing : Listing
  run : Options → List Tensor → Except KernelError Value
  /-- What building the definition reported: the steps compiled for it. -/
  preparation : List Event := []
  /-- What running it on these arguments reports. -/
  reports : List Tensor → List Event := fun _ => []

/-- A compiled definition. -/
structure Kernel where
  definition : Definition
  signature : Option Signature
  options : Options

namespace Kernel

/-- Compiles a definition; the signature must have a core form. -/
def compile (definition : Definition) (signature : Option Signature) (options : Options) :
    Except KernelError Kernel :=
  match signature with
  | none => .ok ⟨definition, none, options⟩
  | some s => do
    let _ ← s.core
    pure ⟨definition, some s, options⟩

/-- Compiles a reduction for a node, with the signature of the node if asked for. -/
def compileReduction (node : Node) (definition : Definition) (scalar signed : Bool)
    (config : Config) : Except KernelError Kernel :=
  if signed then do
    let signature ← Signature.ofNode node scalar
    compile definition (some signature) (Options.reduction config)
  else compile definition none (Options.reduction config)

/-- The name of the function that the kernel defines. -/
def name (k : Kernel) : String := k.definition.name

/-- The label of the kind of kernel. -/
def label (k : Kernel) : String := k.definition.label

/-- The comments in front of the listing. -/
def heading (k : Kernel) : Listing :=
  [⟨0, "// kernel: " ++ k.name ++ " (" ++ k.label ++ ")"⟩] ++
    (match k.signature with
      | some s => [⟨0, "// signature: " ++ s.text⟩]
      | none => []) ++
    [⟨0, "// options: " ++ k.options.text⟩]

/-- All lines of the kernel: its heading and its definition. -/
def listing (k : Kernel) : Listing := k.heading ++ k.definition.listing

/-- The text of the kernel. -/
def source (k : Kernel) : String := k.listing.render

/-- The fingerprint of the text of the kernel. -/
def fingerprint (k : Kernel) : UInt64 := Fingerprint.ofText k.source

/-- Runs the kernel; a signature is applied to the arguments and to the result. -/
def call (k : Kernel) (inputs : List Tensor) : Except KernelError Value :=
  match k.signature with
  | some s => do
    let coerced ← s.coerceInputs inputs
    let value ← k.definition.run k.options coerced
    s.coerceOutput value
  | none => k.definition.run k.options inputs

/-- Runs the kernel and gives the result as an array. -/
def callTensor (k : Kernel) (inputs : List Tensor) : Except KernelError Tensor := do
  let value ← k.call inputs
  pure value.toTensor

/-- What a call reports. -/
def callEvents (k : Kernel) (inputs : List Tensor) : List Event :=
  match k.signature with
  | some s =>
    match s.coerceInputs inputs with
    | .ok coerced => k.definition.reports coerced
    | .error _ => []
  | none => k.definition.reports inputs

/-- What compiling this kernel alone reports. -/
def report (k : Kernel) : List Event :=
  [⟨.debug, "compiled kernel",
    [("kernel", k.name), ("label", k.label), ("opt_level", k.options.level.name),
      ("fastmath", Inspect.flag k.options.fastmath),
      ("boundscheck", Inspect.flag k.options.boundscheck),
      ("fingerprint", Inspect.hex16 k.fingerprint)]⟩,
  ⟨.trace, "kernel listing", [("kernel", k.name), ("source", k.source)]⟩]

/-- What building and compiling the kernel reports. -/
def events (k : Kernel) : List Event := k.definition.preparation ++ k.report

/-- The kernel field by field. -/
def inspect (k : Kernel) : String :=
  "Kernel \x7b name: " ++ Inspect.quoted k.name ++ ", label: " ++ Inspect.quoted k.label ++
    ", signature: " ++ Inspect.option Signature.inspect k.signature ++ ", options: " ++
    k.options.inspect ++ ", fingerprint: " ++ Inspect.hex16 k.fingerprint ++ " \x7d"

end Kernel

/-- The only argument of a kernel that takes one. -/
def oneArgument (kernel : String) : List Tensor → Except KernelError Tensor
  | [t] => .ok t
  | inputs => .error (.argumentCount kernel 1 inputs.length)

/-- The two arguments of a kernel that takes two. -/
def twoArguments (kernel : String) : List Tensor → Except KernelError (Tensor × Tensor)
  | [a, b] => .ok (a, b)
  | inputs => .error (.argumentCount kernel 2 inputs.length)

namespace Node

/-- The only input of a node. -/
def onlyInput (node : Node) (op : String) : Except KernelError TensorType :=
  match node.inputs with
  | [input] => .ok input
  | inputs => .error (.inputCount op inputs.length)

/-- The only output of a node. -/
def onlyOutput (node : Node) (op : String) : Except KernelError TensorType :=
  match node.outputs with
  | [output] => .ok output
  | outputs => .error (.outputCount op outputs.length)

end Node

end LoopKernels
