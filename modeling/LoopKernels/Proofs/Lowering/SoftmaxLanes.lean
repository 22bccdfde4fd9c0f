import LoopKernels.Lowering.Compile
import LoopKernels.Proofs.Lowering.Gathering
import LoopKernels.Proofs.Tensor.Lanes
import Mathlib.Data.List.Basic

/-!
# Softmax along an axis

A softmax along an axis treats every lane like an array of its own: its element at a
coordinate is the element that the softmax of the lane through the coordinate has at
the coordinate's index. The same holds of the logarithm and of the gradient. Both
sides evaluate one formula, over the lanes of the array and over the whole of a lane,
and the groups of the two are equal. No property of the functions on doubles is used.

Along an axis the strides of the array and of its aggregates are formed and the
aggregates counted. An array without elements for which one of these is no word is
refused, though it has no lane to work on.
-/

namespace LoopKernels

namespace Lowering

section Lanes

variable {axis index : Nat} {shape : Shape} {rest : Coord} (value lane : Coord → Scalar)

/-- The group along the axis is the whole of the lane. -/
theorem groupOf_lane
    (same : ∀ place < shape.getD axis 0, value (rest.insertIdx axis place) = lane [place]) :
    groupOf (some axis) shape value (rest.insertIdx axis index) =
      groupOf none [shape.getD axis 0] lane [index] := by
  rw [groupOf, groupOf, List.eraseIdx_insertIdx_self, Shape.coordinates_one, List.map_map]
  exact List.map_congr_left fun place below => same place (List.mem_range.mp below)

/-- Equal groups have equal folds. -/
theorem foldAt_lane (u : Update) (identity : Float) (elem : ElemType)
    (same : ∀ place < shape.getD axis 0, value (rest.insertIdx axis place) = lane [place]) :
    foldAt u identity elem (some axis) shape value (rest.insertIdx axis index) =
      foldAt u identity elem none [shape.getD axis 0] lane [index] := by
  rw [foldAt, foldAt, groupOf_lane value lane same]

/-- A centred entry is that of its lane taken by itself. -/
theorem centredAt_lane (input : ElemType)
    (same : ∀ place < shape.getD axis 0, value (rest.insertIdx axis place) = lane [place])
    (below : index < shape.getD axis 0) :
    centredAt input (some axis) shape value (rest.insertIdx axis index) =
      centredAt input none [shape.getD axis 0] lane [index] := by
  rw [centredAt, centredAt, foldAt_lane value lane _ _ _ same, same index below]

/-- The softmax along the axis is the softmax of the lane, at each index of the lane. -/
theorem softmaxAt_lane (isLog : Bool) (input output : ElemType)
    (same : ∀ place < shape.getD axis 0, value (rest.insertIdx axis place) = lane [place])
    (below : index < shape.getD axis 0) :
    softmaxAt isLog input output (some axis) shape value (rest.insertIdx axis index) =
      softmaxAt isLog input output none [shape.getD axis 0] lane [index] := by
  have powers : ∀ place < shape.getD axis 0,
      powerAt input output (some axis) shape value (rest.insertIdx axis place) =
        powerAt input output none [shape.getD axis 0] lane [place] := by
    intro place inside
    rw [powerAt, powerAt, centredAt_lane value lane input same inside]
  simp only [softmaxAt]
  rw [foldAt_lane _ _ _ _ _ powers, powers index below, centredAt_lane value lane input same below]

/-- The gradient along the axis is the gradient of the lanes, at each of their indices. -/
theorem gradientAt_lane (output : ElemType) (slope slopeLane : Coord → Scalar)
    (sameSlope : ∀ place < shape.getD axis 0,
      slope (rest.insertIdx axis place) = slopeLane [place])
    (same : ∀ place < shape.getD axis 0, value (rest.insertIdx axis place) = lane [place])
    (below : index < shape.getD axis 0) :
    gradientAt output (some axis) shape slope value (rest.insertIdx axis index) =
      gradientAt output none [shape.getD axis 0] slopeLane lane [index] := by
  have products : ∀ place < shape.getD axis 0,
      productAt output slope value (rest.insertIdx axis place) =
        productAt output slopeLane lane [place] := by
    intro place inside
    rw [productAt, productAt, sameSlope place inside, same place inside]
  simp only [gradientAt]
  rw [foldAt_lane _ _ _ _ _ products, products index below, same index below]

end Lanes

/-- A number that names an axis is resolved, and no number to no axis. -/
theorem resolveAxis_some (rank axis : Nat) (number : Int) (bound : axis < rank)
    (names : number = axis ∨ number = (axis : Int) - rank) :
    resolveAxis (some number) rank = .ok (some axis) := by
  simp [resolveAxis, (Axis.resolve_eq_ok rank number axis).mpr ⟨bound, names⟩, KernelError.ofAxis]

/-- The kernel of a softmax gives the softmax of the groups, or ends where these cannot be
    gathered. -/
theorem softmax_represents (op : Op) (isLog : Bool) (number : Option Int) (axis : Option Nat)
    (input output : TensorType) (denotes : resolveAxis number input.rank = .ok axis)
    (bounds : ∀ place ∈ axis, place < input.rank) (outputRank : output.rank = input.rank)
    (config : Config) :
    ∃ kernel, softmax ⟨op, [input], [output]⟩ isLog number config = .ok kernel ∧
      ∀ (x : Tensor) (shape : Shape) (value : Coord → Scalar), shape.length = input.rank →
        x.Represents input.elem shape value →
        (GroupFits axis shape →
          ∃ result, kernel.call [x] = .ok (.tensor result) ∧ result.Represents output.elem shape
            (softmaxAt isLog input.elem output.elem axis shape value)) ∧
        (¬ GroupFits axis shape → kernel.call [x] = .error (.inTensor .overflow)) := by
  obtain ⟨greatest, greatestBuilt, greatestFolds⟩ := Aggregate.build_folds .maximum .max (-1 / 0)
    input.elem rfl axis input.rank bounds config
  obtain ⟨total, totalBuilt, totalFolds⟩ := Aggregate.build_folds .add .add 0 output.elem rfl axis
    input.rank bounds config
  let s : Softmax := ⟨isLog, greatest, total, input.elem, output.elem⟩
  refine ⟨⟨s.definition, some ⟨[.ofType input], .ofType output, false⟩, Options.reduction config⟩,
    ?_, ?_⟩
  · simp [softmax, Node.onlyInput, Node.onlyOutput, denotes, greatestBuilt, totalBuilt,
      Kernel.compileReduction, Signature.ofNode, Kernel.compile_signed, s]
  · intro x shape value sameRank represents
    have xRank : x.rank = input.rank := by rw [Tensor.rank, represents.shape_eq, sameRank]
    refine ⟨fun fits => ?_, fun tooLarge => ?_⟩
    · obtain ⟨result, ran, resultRepresents⟩ :=
        s.run_represents (greatestFolds shape sameRank) (totalFolds shape sameRank) fits represents
      have resultRank : result.rank = output.rank := by
        rw [Tensor.rank, resultRepresents.shape_eq, sameRank, outputRank]
      refine ⟨result, ?_, resultRepresents⟩
      refine Kernel.call_signed _ _ _ _ x result xRank represents.elem_eq ?_ resultRank
        resultRepresents.elem_eq
      simp [Softmax.definition, oneArgument, ran]
    · have ended := s.run_overflow (greatestFolds shape sameRank) tooLarge represents
      rw [Kernel.call_single _ _ _ _ x xRank represents.elem_eq]
      simp [Softmax.definition, oneArgument, ended]

/-- The kernel of a gradient gives the gradient of the groups, or ends where these cannot be
    gathered. -/
theorem softmaxGradient_represents (op : Op) (number : Option Int) (axis : Option Nat)
    (first second output : TensorType) (denotes : resolveAxis number second.rank = .ok axis)
    (bounds : ∀ place ∈ axis, place < second.rank) (config : Config) :
    ∃ kernel, softmaxGradient ⟨op, [first, second], [output]⟩ number config = .ok kernel ∧
      ∀ (dy sm : Tensor) (left right : ElemType) (shape : Shape) (slope value : Coord → Scalar),
        shape.length = second.rank → dy.Represents left shape slope →
        sm.Represents right shape value →
        (GroupFits axis shape →
          ∃ result, kernel.call [dy, sm] = .ok (.tensor result) ∧
            result.Represents output.elem shape (gradientAt output.elem axis shape slope value)) ∧
        (¬ GroupFits axis shape → kernel.call [dy, sm] = .error (.inTensor .overflow)) := by
  obtain ⟨total, totalBuilt, totalFolds⟩ := Aggregate.build_folds .add .add 0 output.elem rfl axis
    second.rank bounds config
  let g : SoftmaxGradient := ⟨total, output.elem⟩
  refine ⟨⟨g.definition, none, Options.reduction config⟩, ?_, ?_⟩
  · simp [softmaxGradient, Node.onlyOutput, denotes, totalBuilt, Kernel.compileReduction,
      Kernel.compile, g]
  · intro dy sm left right shape slope value sameRank slopes values
    refine ⟨fun fits => ?_, fun tooLarge => ?_⟩
    · obtain ⟨result, ran, resultRepresents⟩ :=
        g.run_represents (totalFolds shape sameRank) fits slopes sm right value values
      refine ⟨result, ?_, resultRepresents⟩
      simp [Kernel.call, SoftmaxGradient.definition, twoArguments, ran]
    · have ended := g.run_overflow (totalFolds shape sameRank) tooLarge slopes sm right value values
      simp [Kernel.call, SoftmaxGradient.definition, twoArguments, ended]

/-- The kernel returns an array of the shape, and its element at each coordinate is the one that
    a kernel for arrays with one axis gives, at the coordinate's index, on the lanes through
    the coordinate. -/
def Lanewise (kernel flat : Kernel) (output : ElemType) (axis : Nat) (shape : Shape)
    (arguments : List Tensor) : Prop :=
  ∃ result, kernel.call arguments = .ok (.tensor result) ∧ result.Valid ∧ result.elem = output ∧
    result.shape = shape ∧
    ∀ coord, Shape.contains shape coord = true → ∃ lane s,
      flat.call (arguments.map (·.laneAlong axis (coord.eraseIdx axis))) = .ok (.tensor lane) ∧
      result.get coord = .ok s ∧ lane.get [coord.getD axis 0] = .ok s

/-- The kernel works lane by lane where the groups along the axis can be gathered. Elsewhere, which
    takes an empty axis, its call ends. -/
def LanewiseWhereFits (kernel flat : Kernel) (output : ElemType) (axis : Nat) (shape : Shape)
    (arguments : List Tensor) : Prop :=
  (GroupFits (some axis) shape → Lanewise kernel flat output axis shape arguments) ∧
    (¬ GroupFits (some axis) shape →
      0 ∈ shape ∧ kernel.call arguments = .error (.inTensor .overflow))

/-- The lane through a coordinate, the coordinate's index in it, and the way back. -/
theorem lane_through (x : Tensor) (valid : x.Valid) (axis : Nat) (bound : axis < x.rank)
    (coord : Coord) (inside : Shape.contains x.shape coord = true) :
    coord.getD axis 0 < x.shape.getD axis 0 ∧
      (x.laneAlong axis (coord.eraseIdx axis)).Represents x.elem [x.shape.getD axis 0]
        (alongLane axis (coord.eraseIdx axis) x.element) ∧
      (coord.eraseIdx axis).insertIdx axis (coord.getD axis 0) = coord := by
  obtain ⟨below, restInside⟩ := Shape.contains_eraseIdx x.shape axis coord bound inside
  refine ⟨below, valid.laneAlong_represents axis bound _ restInside, ?_⟩
  refine Shape.insertIdx_eraseIdx_getD coord axis ?_
  rwa [Shape.length_of_contains x.shape coord inside]

variable {rank axis : Nat} {number : Int} {inputs flatInputs : List TensorType}
  {output flatOutput : TensorType}

/-- A softmax, or its logarithm, works lane by lane. -/
theorem softmax_lanewise (op flatOp : Op) (isLog : Bool) (bound : axis < rank)
    (names : number = axis ∨ number = (axis : Int) - rank) (count : inputs.length = 1)
    (inputRanks : ∀ input ∈ inputs, input.rank = rank) (outputRank : output.rank = rank)
    (inputTypes : flatInputs.map TensorType.elem = inputs.map TensorType.elem)
    (flatInputRanks : ∀ input ∈ flatInputs, input.rank = 1)
    (flatOutputRank : flatOutput.rank = 1) (outputType : flatOutput.elem = output.elem)
    (config flatConfig : Config) :
    ∃ kernel flat, softmax ⟨op, inputs, [output]⟩ isLog (some number) config = .ok kernel ∧
      softmax ⟨flatOp, flatInputs, [flatOutput]⟩ isLog none flatConfig = .ok flat ∧
      ∀ (shape : Shape) (arguments : List Tensor), shape.length = rank → arguments.length = 1 →
        (∀ x ∈ arguments, x.Valid ∧ x.shape = shape) →
        arguments.map Tensor.elem = inputs.map TensorType.elem →
        LanewiseWhereFits kernel flat output.elem axis shape arguments := by
  obtain ⟨input, rfl⟩ := List.length_eq_one_iff.mp count
  obtain ⟨flatInput, rfl⟩ : ∃ flatInput, flatInputs = [flatInput] := by
    rw [← List.length_eq_one_iff]
    simpa using congrArg List.length inputTypes
  obtain rfl : input.rank = rank := inputRanks input List.mem_cons_self
  have flatInputRank : flatInput.rank = 1 := flatInputRanks flatInput List.mem_cons_self
  have inputType : flatInput.elem = input.elem := by simpa using inputTypes
  obtain ⟨kernel, built, gives⟩ := softmax_represents op isLog (some number) (some axis) input
    output (resolveAxis_some input.rank axis number bound names) (by simpa using bound) outputRank
    config
  obtain ⟨flat, flatBuilt, flatGives⟩ := softmax_represents flatOp isLog none none flatInput
    flatOutput rfl (by simp) (flatOutputRank.trans flatInputRank.symm) flatConfig
  refine ⟨kernel, flat, built, flatBuilt, ?_⟩
  intro shape arguments sameRank alone each types
  obtain ⟨x, rfl⟩ := List.length_eq_one_iff.mp alone
  obtain ⟨valid, rfl⟩ := each x List.mem_cons_self
  have type : x.elem = input.elem := by simpa using types
  have represents := valid.represents
  rw [type] at represents
  obtain ⟨returns, ends⟩ := gives x x.shape x.element sameRank represents
  refine ⟨fun fits => ?_, fun tooLarge =>
    ⟨by_contra fun full => tooLarge (groupFits_of_full full valid.2.2), ends tooLarge⟩⟩
  obtain ⟨result, called, resultRepresents⟩ := returns fits
  refine ⟨result, called, resultRepresents.valid, resultRepresents.elem_eq,
    resultRepresents.shape_eq, ?_⟩
  intro coord inside
  obtain ⟨below, laneRepresents, back⟩ :=
    lane_through x valid axis (lt_of_lt_of_eq bound sameRank.symm) coord inside
  rw [type, ← inputType] at laneRepresents
  obtain ⟨lane, laneCalled, laneResult⟩ :=
    (flatGives _ [x.shape.getD axis 0] _ flatInputRank.symm laneRepresents).1 (groupFits_one _)
  have agree := softmaxAt_lane x.element (alongLane axis (coord.eraseIdx axis) x.element) isLog
    input.elem output.elem (fun place _ => rfl) below
  rw [back] at agree
  refine ⟨lane, _, laneCalled, resultRepresents.get_eq coord inside, ?_⟩
  rw [laneResult.get_eq [coord.getD axis 0] (by simpa using below), inputType, outputType, agree]

/-- The gradient of a softmax works lane by lane. -/
theorem softmaxGradient_lanewise (op flatOp : Op) (bound : axis < rank)
    (names : number = axis ∨ number = (axis : Int) - rank) (count : inputs.length = 2)
    (inputRanks : ∀ input ∈ inputs, input.rank = rank)
    (inputTypes : flatInputs.map TensorType.elem = inputs.map TensorType.elem)
    (flatInputRanks : ∀ input ∈ flatInputs, input.rank = 1)
    (outputType : flatOutput.elem = output.elem) (config flatConfig : Config) :
    ∃ kernel flat, softmaxGradient ⟨op, inputs, [output]⟩ (some number) config = .ok kernel ∧
      softmaxGradient ⟨flatOp, flatInputs, [flatOutput]⟩ none flatConfig = .ok flat ∧
      ∀ (shape : Shape) (arguments : List Tensor), shape.length = rank → arguments.length = 2 →
        (∀ x ∈ arguments, x.Valid ∧ x.shape = shape) →
        LanewiseWhereFits kernel flat output.elem axis shape arguments := by
  obtain ⟨first, second, rfl⟩ := List.length_eq_two.mp count
  obtain ⟨flatFirst, flatSecond, rfl⟩ : ∃ a b, flatInputs = [a, b] := by
    rw [← List.length_eq_two]
    simpa using congrArg List.length inputTypes
  obtain rfl : second.rank = rank := inputRanks second (by simp)
  have flatSecondRank : flatSecond.rank = 1 := flatInputRanks flatSecond (by simp)
  obtain ⟨kernel, built, gives⟩ := softmaxGradient_represents op (some number) (some axis) first
    second output (resolveAxis_some second.rank axis number bound names) (by simpa using bound)
    config
  obtain ⟨flat, flatBuilt, flatGives⟩ := softmaxGradient_represents flatOp none none flatFirst
    flatSecond flatOutput rfl (by simp) flatConfig
  refine ⟨kernel, flat, built, flatBuilt, ?_⟩
  intro shape arguments sameRank both each
  obtain ⟨dy, sm, rfl⟩ := List.length_eq_two.mp both
  obtain ⟨dyValid, sameShape⟩ := each dy (by simp)
  obtain ⟨smValid, rfl⟩ := each sm (by simp)
  have slopes := dyValid.represents
  rw [sameShape] at slopes
  obtain ⟨returns, ends⟩ :=
    gives dy sm _ _ sm.shape dy.element sm.element sameRank slopes smValid.represents
  refine ⟨fun fits => ?_, fun tooLarge =>
    ⟨by_contra fun full => tooLarge (groupFits_of_full full smValid.2.2), ends tooLarge⟩⟩
  obtain ⟨result, called, resultRepresents⟩ := returns fits
  refine ⟨result, called, resultRepresents.valid, resultRepresents.elem_eq,
    resultRepresents.shape_eq, ?_⟩
  intro coord inside
  have inRank : axis < sm.rank := lt_of_lt_of_eq bound sameRank.symm
  obtain ⟨below, smLane, back⟩ := lane_through sm smValid axis inRank coord inside
  have dyRank : dy.rank = sm.rank := congrArg List.length sameShape
  obtain ⟨-, dyLane, -⟩ :=
    lane_through dy dyValid axis (lt_of_lt_of_eq inRank dyRank.symm) coord (by rwa [sameShape])
  rw [sameShape] at dyLane
  obtain ⟨lane, laneCalled, laneResult⟩ :=
    (flatGives _ _ _ _ [sm.shape.getD axis 0] _ _ flatSecondRank.symm dyLane smLane).1
      (groupFits_one _)
  have agree := gradientAt_lane sm.element (alongLane axis (coord.eraseIdx axis) sm.element)
    output.elem dy.element (alongLane axis (coord.eraseIdx axis) dy.element) (fun place _ => rfl)
    (fun place _ => rfl) below
  rw [back] at agree
  refine ⟨lane, _, laneCalled, resultRepresents.get_eq coord inside, ?_⟩
  rw [laneResult.get_eq [coord.getD axis 0] (by simpa using below), outputType, agree]

/-- Softmax, its logarithm and its gradient. -/
inductive SoftmaxKind where
  | softmax
  | logSoftmax
  | gradient
deriving DecidableEq

namespace SoftmaxKind

/-- The operator of a kind, along an axis or over the whole array. -/
def op : SoftmaxKind → Option Int → Op
  | softmax => .softmax
  | logSoftmax => .logSoftmax
  | gradient => .softmaxGrad

/-- How many arrays the operator takes. -/
def arity : SoftmaxKind → Nat
  | softmax | logSoftmax => 1
  | gradient => 2

/-- Along every axis, however it is named, the operators of all three kinds are compiled and
    do on each lane what they do on an array with one axis, where the strides of the array and of
    its aggregates along the axis are words and the aggregates are counted by words. Elsewhere,
    which takes an empty axis, they end. The first two take arrays of the declared type; the
    gradient takes any two arrays of one shape. -/
theorem along_axis_is_lanewise (kind : SoftmaxKind) (rank axis : Nat) (number : Int)
    (bound : axis < rank) (names : number = axis ∨ number = (axis : Int) - rank)
    (inputs flatInputs : List TensorType) (output flatOutput : TensorType)
    (count : inputs.length = kind.arity) (inputRanks : ∀ input ∈ inputs, input.rank = rank)
    (outputRank : output.rank = rank)
    (inputTypes : flatInputs.map TensorType.elem = inputs.map TensorType.elem)
    (flatInputRanks : ∀ input ∈ flatInputs, input.rank = 1)
    (flatOutputRank : flatOutput.rank = 1) (outputType : flatOutput.elem = output.elem)
    (config flatConfig : Config) :
    ∃ kernel flat,
      (⟨kind.op (some number), inputs, [output]⟩ : Node).compile config = .ok kernel ∧
      (⟨kind.op none, flatInputs, [flatOutput]⟩ : Node).compile flatConfig = .ok flat ∧
      ∀ (shape : Shape) (arguments : List Tensor), shape.length = rank →
        arguments.length = kind.arity → (∀ x ∈ arguments, x.Valid ∧ x.shape = shape) →
        (kind ≠ gradient → arguments.map Tensor.elem = inputs.map TensorType.elem) →
        LanewiseWhereFits kernel flat output.elem axis shape arguments := by
  cases kind with
  | softmax =>
    obtain ⟨kernel, flat, built, flatBuilt, lanewise⟩ := softmax_lanewise (softmax.op (some number))
      (softmax.op none) false bound names count inputRanks outputRank inputTypes flatInputRanks
      flatOutputRank outputType config flatConfig
    refine ⟨kernel, flat, built, flatBuilt, ?_⟩
    intro shape arguments sameRank alone each types
    exact lanewise shape arguments sameRank alone each (types (by simp))
  | logSoftmax =>
    obtain ⟨kernel, flat, built, flatBuilt, lanewise⟩ :=
      softmax_lanewise (logSoftmax.op (some number)) (logSoftmax.op none) true bound names count
        inputRanks outputRank inputTypes flatInputRanks flatOutputRank outputType config flatConfig
    refine ⟨kernel, flat, built, flatBuilt, ?_⟩
    intro shape arguments sameRank alone each types
    exact lanewise shape arguments sameRank alone each (types (by simp))
  | gradient =>
    obtain ⟨kernel, flat, built, flatBuilt, lanewise⟩ :=
      softmaxGradient_lanewise (gradient.op (some number)) (gradient.op none) bound names count
        inputRanks inputTypes flatInputRanks outputType config flatConfig
    refine ⟨kernel, flat, built, flatBuilt, ?_⟩
    intro shape arguments sameRank both each _
    exact lanewise shape arguments sameRank both each

/-- The gradient down the columns of two byte arrays, at the last place of the third column. The
    softmax of the hollow array ends along its second axis. -/
theorem along_axis_is_lanewise_column :
    (∃ kernel flat result lane s,
      (⟨gradient.op (some (-2)), [.dynamic .f32 2, .dynamic .f32 2], [.dynamic .i8 2]⟩ :
        Node).compile {} = .ok kernel ∧
      (⟨gradient.op none, [.dynamic .f32 1, .dynamic .f32 1], [.dynamic .i8 1]⟩ :
        Node).compile {} = .ok flat ∧
      kernel.call [⟨.i8, [2, 3], .signed #[1, 2, 3, 4, 5, 6]⟩,
        ⟨.u8, [2, 3], .unsigned #[9, 8, 7, 6, 5, 4]⟩] = .ok (.tensor result) ∧
      flat.call [⟨.i8, [2], .signed #[3, 6]⟩, ⟨.u8, [2], .unsigned #[7, 4]⟩] =
        .ok (.tensor lane) ∧
      result.get [1, 2] = .ok s ∧ lane.get [1] = .ok s) ∧
    ∃ kernel,
      (⟨softmax.op (some 1), [.dynamic .i64 3], [.dynamic .f64 3]⟩ : Node).compile {} = .ok kernel ∧
      kernel.call [.hollow] = .error (.inTensor .overflow) := by
  constructor
  · obtain ⟨kernel, flat, compiled, flatCompiled, lanewise⟩ :=
      along_axis_is_lanewise gradient 2 0 (-2) (by decide) (by decide)
        [.dynamic .f32 2, .dynamic .f32 2] [.dynamic .f32 1, .dynamic .f32 1] (.dynamic .i8 2)
        (.dynamic .i8 1) rfl (by decide) rfl rfl (by decide) rfl rfl {} {}
    obtain ⟨result, called, -, -, -, each⟩ := (lanewise [2, 3]
      [⟨.i8, [2, 3], .signed #[1, 2, 3, 4, 5, 6]⟩, ⟨.u8, [2, 3], .unsigned #[9, 8, 7, 6, 5, 4]⟩]
      rfl rfl (by decide) (by simp)).1 (by decide)
    obtain ⟨lane, s, laneCalled, read, laneRead⟩ := each [1, 2] (by decide)
    exact ⟨kernel, flat, result, lane, s, compiled, flatCompiled, called, laneCalled, read,
      laneRead⟩
  · obtain ⟨kernel, flat, compiled, -, lanewise⟩ :=
      along_axis_is_lanewise softmax 3 1 1 (by decide) (by decide) [.dynamic .i64 3]
        [.dynamic .i64 1] (.dynamic .f64 3) (.dynamic .f64 1) rfl (by decide) rfl rfl (by decide)
        rfl rfl {} {}
    have ends := (lanewise [0, 2 ^ 32, 2 ^ 32] [.hollow] rfl rfl (by decide) (fun _ => rfl)).2
    exact ⟨kernel, compiled, (ends (by decide)).2⟩

end SoftmaxKind

end Lowering

end LoopKernels
