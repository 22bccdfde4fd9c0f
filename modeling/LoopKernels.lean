import LoopKernels.Decimal.Layout
import LoopKernels.Decimal.Shortest
import LoopKernels.Double.Dyadic
import LoopKernels.Double.Single
import LoopKernels.Element
import LoopKernels.Elementwise.Build
import LoopKernels.Elementwise.Reference
import LoopKernels.Elementwise.ScalarKernel
import LoopKernels.Elementwise.Vectorized
import LoopKernels.Gufunc.Binding
import LoopKernels.Gufunc.Reader
import LoopKernels.Gufunc.Signature
import LoopKernels.Json.Number
import LoopKernels.Json.Reader
import LoopKernels.Json.Record
import LoopKernels.Json.Token
import LoopKernels.Json.Value
import LoopKernels.Json.Writer
import LoopKernels.Kernel.Basic
import LoopKernels.Kernel.Config
import LoopKernels.Kernel.Error
import LoopKernels.Kernel.Options
import LoopKernels.Kernel.Signature
import LoopKernels.Lane.Apply
import LoopKernels.Lowering.Argmax
import LoopKernels.Lowering.Compile
import LoopKernels.Lowering.Reduce
import LoopKernels.Lowering.Shuffle
import LoopKernels.Lowering.Softmax
import LoopKernels.Node.Basic
import LoopKernels.Node.Json
import LoopKernels.Node.Reuse
import LoopKernels.Node.Shuffle
import LoopKernels.Operator.Basic
import LoopKernels.Operator.Eval
import LoopKernels.Operator.Expression
import LoopKernels.Operator.Json
import LoopKernels.Proofs.Elementwise.Agreement
import LoopKernels.Proofs.Elementwise.Alignment
import LoopKernels.Proofs.Gufunc.Reading
import LoopKernels.Proofs.Json.Number
import LoopKernels.Proofs.Json.Record
import LoopKernels.Proofs.Json.RoundTrip
import LoopKernels.Proofs.Json.Spelling
import LoopKernels.Proofs.Kernel.Signed
import LoopKernels.Proofs.Kernel.Soundness
import LoopKernels.Proofs.Lowering.AccumulatorSeed
import LoopKernels.Proofs.Lowering.Gathering
import LoopKernels.Proofs.Lowering.JointReduction
import LoopKernels.Proofs.Lowering.SoftmaxLanes
import LoopKernels.Proofs.Lowering.Soundness
import LoopKernels.Proofs.Lowering.SumAgreement
import LoopKernels.Proofs.Node.Stored
import LoopKernels.Proofs.Operator.Stored
import LoopKernels.Proofs.Outcome
import LoopKernels.Proofs.Reduction.Aggregate
import LoopKernels.Proofs.Reduction.Joint
import LoopKernels.Proofs.Reduction.Lanes
import LoopKernels.Proofs.Reduction.Neutrality
import LoopKernels.Proofs.Reduction.Soundness
import LoopKernels.Proofs.Reduction.Widening
import LoopKernels.Proofs.Scalar.Bits
import LoopKernels.Proofs.Scalar.Integers
import LoopKernels.Proofs.Shape.Axes
import LoopKernels.Proofs.Shape.AxisSplit
import LoopKernels.Proofs.Shape.Numbering
import LoopKernels.Proofs.Shape.Stretching
import LoopKernels.Proofs.Tensor.Representation
import LoopKernels.Proofs.Tensor.Soundness
import LoopKernels.Proofs.Tensor.Storage
import LoopKernels.Reduction.Axes
import LoopKernels.Reduction.Axis
import LoopKernels.Reduction.Update
import LoopKernels.Scalar.Arithmetic
import LoopKernels.Scalar.Basic
import LoopKernels.Scalar.Text
import LoopKernels.Shape.Axis
import LoopKernels.Shape.Basic
import LoopKernels.Shape.Broadcast
import LoopKernels.Shape.Odometer
import LoopKernels.Shape.StaticLength
import LoopKernels.Tensor.Basic
import LoopKernels.Tensor.Cells
import LoopKernels.Tensor.Combine
import LoopKernels.Tensor.Error
import LoopKernels.Tensor.Rearrange
import LoopKernels.Tensor.Value
import LoopKernels.Text.Classes
import LoopKernels.Text.Hidden
import LoopKernels.Text.Inspect
import LoopKernels.Text.Listing
import LoopKernels.Text.Pattern
import LoopKernels.Proofs.Gufunc.Binding
import LoopKernels.Proofs.Kernel.Arguments
import LoopKernels.Proofs.Kernel.Contract
import LoopKernels.Proofs.Tensor.Runs
import LoopKernels.Proofs.Elementwise.Pointwise
import LoopKernels.Proofs.Reduction.Accumulation
import LoopKernels.Proofs.Elementwise.Running
import LoopKernels.Proofs.Kernel.Heading
import LoopKernels.Proofs.Reduction.Listing
import LoopKernels.Proofs.Lowering.ReductionListing
import LoopKernels.Proofs.Lowering.ShuffleListing
import LoopKernels.Proofs.Elementwise.Listing
import LoopKernels.Proofs.Lowering.AxisListing
import LoopKernels.Proofs.Lowering.SourceAgreement
import LoopKernels.Proofs.Reduction.Descending
import LoopKernels.Proofs.Lane.Argmax
import LoopKernels.Proofs.Lane.Apply
import LoopKernels.Proofs.Lowering.JointArgmax
import LoopKernels.Proofs.Lowering.ShuffledElements
import LoopKernels.Proofs.Elementwise.StaticLengths
import LoopKernels.Proofs.Lowering.ShuffledLengths
import LoopKernels.Proofs.Operator.WordArithmetic
import LoopKernels.Proofs.Lane.Lanewise
import LoopKernels.Proofs.Operator.Power
import LoopKernels.Proofs.Scalar.FloorDivision
import LoopKernels.Proofs.Tensor.PermutationAction
import LoopKernels.Proofs.Shape.IndexWalks
import LoopKernels.Proofs.Tensor.Combining
import LoopKernels.Proofs.Gufunc.Assignment
import LoopKernels.Proofs.Shape.WordBounds
