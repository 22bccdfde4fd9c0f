import LoopKernels.Reduction.Axis

/-!
# Reductions of several axes

The distinct axes are reduced one after the other from the highest down, so that
the numbers of the axes still to be reduced stay the same. Reducing no axis
leaves the array as it is. A request for a single axis is the plain reduction of
that axis.
-/

namespace LoopKernels

/-- A chain of reductions of single axes. -/
structure AxesReducer where
  name : String
  /-- The name of the argument in the listing. -/
  inputName : String
  /-- The reduced axes, in the order in which they are reduced. -/
  axes : List Nat
  steps : List Kernel
  /-- The result is a plain scalar. -/
  returnScalar : Bool

/-- A reduction of one axis or of several. -/
inductive Reducer where
  | axis (reducer : AxisReducer)
  | axes (reducer : AxesReducer)

namespace AxesReducer

/-- The reducers of the given axes, of which the first has the given number and
    works on an array of the given rank. -/
def chain (op : Operator) (seed : Scalar) (elem : ElemType) :
    Nat → Nat → List Nat → Except KernelError (List AxisReducer)
  | _, _, [] => .ok []
  | number, rank, axis :: rest => do
    let first ← AxisReducer.build op seed axis rank elem false false
    let others ← chain op seed elem (number + 1) (rank - 1) rest
    pure ({ first with name := "careduce_axes_fn_" ++ toString number } :: others)

/-- The listed axes from the highest down. -/
def descending (axes : List Nat) : List Nat := Axis.sortBy (fun a b => decide (b ≤ a)) axes

/-- The chain that reduces the axes of an array of the given rank. -/
def build (op : Operator) (seed : Scalar) (axes : List Int) (rank : Nat) (elem : ElemType)
    (inputName : String) (returnScalar : Bool) (config : Config) :
    Except KernelError AxesReducer := do
  let resolved ← KernelError.ofAxis (Axis.resolveAll rank axes)
  let _ ← Update.ofOperator op elem
  let ordered := descending resolved
  let reducers ← chain op seed elem 0 rank ordered
  pure ⟨"careduce_" ++ op.name, inputName, ordered, reducers.map (·.stepKernel config),
    returnScalar⟩

/-- Runs kernels one after the other, each on the result of the one before. -/
def runSteps : List Kernel → Tensor → Except KernelError Tensor
  | [], t => .ok t
  | step :: rest, t => do
    let value ← step.call [t]
    runSteps rest value.toTensor

/-- The array reduced along each of its axes in turn, or its only entry. -/
def reduce (r : AxesReducer) (t : Tensor) : Except KernelError Value := do
  let reduced ← runSteps r.steps t
  if r.returnScalar then do
    let value ← KernelError.ofTensor reduced.item
    pure (.scalar value reduced.elem)
  else pure (.tensor reduced)

/-- The names of the argument and of the intermediate results. -/
def resultNames (r : AxesReducer) : List String :=
  r.inputName :: (List.range r.steps.length).map fun i => "axis_" ++ toString i ++ "_res"

/-- One statement per step. -/
def statements (r : AxesReducer) : List String :=
  (r.steps.zip (r.resultNames.zip r.resultNames.tail)).map fun (step, source, target) =>
    target ++ " = " ++ step.name ++ "(" ++ source ++ ");"

/-- The listings of the steps and a function that calls them. -/
def listing (r : AxesReducer) : Listing :=
  let final := "return asarray(" ++ r.resultNames.getLastD r.inputName ++ ")" ++
    (if r.returnScalar then ".item()" else "") ++ ";"
  (r.steps.flatMap fun step => step.listing ++ [Line.blank]) ++
    Listing.block 0 (r.name ++ "(" ++ r.inputName ++ ") \x7b") ++
    r.statements.flatMap (Listing.block 1) ++ Listing.block 1 final ++ [⟨0, "\x7d"⟩]

/-- The kernel that reduces along several axes. -/
def definition (r : AxesReducer) : Definition where
  name := r.name
  label := "loop.reduce_axes"
  listing := r.listing
  run _ inputs := do
    let t ← oneArgument r.name inputs
    r.reduce t
  preparation := r.steps.flatMap Kernel.events

end AxesReducer

namespace Reducer

/-- The reduction of a list of axes of an array of the given rank. -/
def build (op : Operator) (seed : Scalar) (axes : List Int) (rank : Nat) (elem : ElemType)
    (inputName : String) (returnScalar : Bool) (config : Config) : Except KernelError Reducer :=
  match axes with
  | [single] => do
    let reducer ← AxisReducer.build op seed single rank elem false false
    pure (.axis reducer)
  | _ => do
    let reducer ← AxesReducer.build op seed axes rank elem inputName returnScalar config
    pure (.axes reducer)

/-- The kernel of a reducer of either kind. -/
def definition : Reducer → Definition
  | axis reducer => reducer.definition
  | axes reducer => reducer.definition

end Reducer

end LoopKernels
