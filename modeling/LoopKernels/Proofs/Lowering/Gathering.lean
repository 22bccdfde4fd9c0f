import LoopKernels.Lowering.Softmax
import LoopKernels.Proofs.Kernel.Signed
import LoopKernels.Proofs.Reduction.Lanes
import LoopKernels.Proofs.Shape.Axes
import LoopKernels.Proofs.Tensor.Combining

/-!
# Softmax as a function of groups

An aggregate assigns to each coordinate a group of elements: the lane through it, or
all elements. It folds every group, and its result stretches back over the array, so
that the fold of a group can be read at each of its coordinates. With groups left open,
softmax, its logarithm and its gradient are formulas on represented functions, the
same for a single axis and for the whole array.

The array and the aggregate are both read through strides, and along an axis the
aggregate is counted. Where one of these is no word the run ends.
-/

namespace LoopKernels

/-- An array that stretches from its own shape over another one and is read there as the values of
    a function. -/
def Tensor.Covers (t : Tensor) (elem : ElemType) (own shape : Shape) (value : Coord → Scalar) :
    Prop :=
  ∃ stored, t.Represents elem own stored ∧
    Shape.broadcast? [shape, own] = some shape ∧ Shape.broadcast? [own, shape] = some shape ∧
    ∀ coord, Shape.contains shape coord = true → stored (Shape.shrink own coord) = value coord

namespace Tensor

variable {t u : Tensor} {elem other : ElemType} {own shape : Shape} {value stored : Coord → Scalar}

/-- A shape that fits another one stretches over it on either side. -/
theorem covers_of_fits (ranks : own.length ≤ shape.length)
    (fits : Shape.Fits (Shape.padTo shape.length own) shape)
    (represents : t.Represents elem own stored)
    (reads : ∀ coord, Shape.contains shape coord = true →
      stored (Shape.shrink own coord) = value coord) :
    t.Covers elem own shape value := by
  have self : Shape.Fits (Shape.padTo shape.length shape) shape := by
    rw [Shape.padTo_self]
    exact Shape.fits_refl shape
  refine ⟨stored, represents, ?_, ?_, reads⟩
  · exact Shape.broadcast?_of_mem _ shape (by simp) (by simpa using ranks) (by simp [self, fits])
  · exact Shape.broadcast?_of_mem _ shape (by simp) (by simpa using ranks) (by simp [self, fits])

/-- An array of the shape covers it. -/
theorem Represents.covers (represents : t.Represents elem shape value) :
    t.Covers elem shape shape value := by
  refine covers_of_fits (Nat.le_refl _) ?_ represents fun coord inside => ?_
  · rw [Shape.padTo_self]
    exact Shape.fits_refl shape
  · rw [Shape.shrink_self shape coord inside]

/-- A function of each element of an array that covers a shape. -/
theorem Covers.map (covers : t.Covers elem own shape value) (target : ElemType)
    (f : Scalar → Scalar) :
    (t.map target f).Covers target own shape fun coord => (f (value coord)).cast target := by
  obtain ⟨stored, represents, left, right, reads⟩ := covers
  refine ⟨_, represents.map target f, left, right, ?_⟩
  intro coord inside
  rw [reads coord inside]

/-- A function of an array and one that covers its shape. -/
theorem Represents.zipWith_covers (represents : t.Represents elem shape value)
    (covers : u.Covers other own shape stored) (readable : shape.StridesFit)
    (ownReadable : own.StridesFit) (target : ElemType) (f : Scalar → Scalar → Scalar) :
    ∃ w, t.zipWith u target f = .ok w ∧
      w.Represents target shape fun coord => (f (value coord) (stored coord)).cast target := by
  obtain ⟨kept, second, meets, -, reads⟩ := covers
  obtain ⟨w, zipped, result⟩ := represents.zipWith u other own shape kept second meets readable
    ownReadable represents.counted target f
  refine ⟨w, zipped, result.congr _ ?_⟩
  intro coord inside
  rw [reads coord inside, Shape.shrink_self shape coord inside]

/-- A function of an array that covers a shape and one of the shape. -/
theorem Covers.zipWith_represents (covers : t.Covers elem own shape value)
    (represents : u.Represents other shape stored) (readable : shape.StridesFit)
    (ownReadable : own.StridesFit) (target : ElemType) (f : Scalar → Scalar → Scalar) :
    ∃ w, t.zipWith u target f = .ok w ∧
      w.Represents target shape fun coord => (f (value coord) (stored coord)).cast target := by
  obtain ⟨kept, first, -, meets, reads⟩ := covers
  obtain ⟨w, zipped, result⟩ := first.zipWith u other shape shape stored represents meets
    ownReadable readable represents.counted target f
  refine ⟨w, zipped, result.congr _ ?_⟩
  intro coord inside
  rw [reads coord inside, Shape.shrink_self shape coord inside]

/-- Where one of the shapes has strides that are no words, an array and one that covers its shape
    are not combined. -/
theorem Represents.zipWith_overflow (represents : t.Represents elem shape value)
    (covers : u.Covers other own shape stored) (tooLarge : ¬ (shape.StridesFit ∧ own.StridesFit))
    (target : ElemType) (f : Scalar → Scalar → Scalar) :
    t.zipWith u target f = .error .overflow := by
  obtain ⟨kept, second, meets, -, -⟩ := covers
  have common : Shape.broadcast [t.shape, u.shape] = .ok shape := by
    rw [represents.shape_eq, second.shape_eq, Shape.broadcast, meets]
  refine Tensor.zipWith_overflow common (fun fits => tooLarge ?_) target f
  rw [represents.shape_eq, second.shape_eq] at fits
  exact ⟨fits.1, fits.2.1⟩

/-- The same with the arrays in the other order. -/
theorem Covers.zipWith_overflow (covers : t.Covers elem own shape value)
    (represents : u.Represents other shape stored)
    (tooLarge : ¬ (shape.StridesFit ∧ own.StridesFit))
    (target : ElemType) (f : Scalar → Scalar → Scalar) :
    t.zipWith u target f = .error .overflow := by
  obtain ⟨kept, first, -, meets, -⟩ := covers
  have common : Shape.broadcast [t.shape, u.shape] = .ok shape := by
    rw [represents.shape_eq, first.shape_eq, Shape.broadcast, meets]
  refine Tensor.zipWith_overflow common (fun fits => tooLarge ?_) target f
  rw [represents.shape_eq, first.shape_eq] at fits
  exact ⟨fits.2.1, fits.1⟩

end Tensor

/-- An axis of length one in place of another does not make a shape without empty axes greater. -/
theorem Shape.count_set_one_le {shape : Shape} (full : 0 ∉ shape) (number : Nat) :
    Shape.count (shape.set number 1) ≤ Shape.count shape := by
  induction shape generalizing number with
  | nil => simp
  | cons length shape inductionHypothesis =>
    rw [List.mem_cons, not_or] at full
    cases number with
    | zero =>
      rw [List.set_cons_zero, Shape.count_cons, Shape.count_cons]
      exact Nat.mul_le_mul_right _ (Nat.pos_of_ne_zero (Ne.symm full.1))
    | succ number =>
      rw [List.set_cons_succ, Shape.count_cons, Shape.count_cons]
      exact Nat.mul_le_mul_left _ (inductionHypothesis full.2 number)

namespace Lowering

/-- The elements that are reduced together with the one at a coordinate: those along the
    axis, or all of them. -/
def groupOf (axis : Option Nat) (shape : Shape) (value : Coord → Scalar) (coord : Coord) :
    List Scalar :=
  match axis with
  | some number => laneAt number (shape.getD number 0) value (coord.eraseIdx number)
  | none => (Shape.coordinates shape).map value

/-- The fold of the group at a coordinate. -/
def foldAt (u : Update) (identity : Float) (elem : ElemType) (axis : Option Nat) (shape : Shape)
    (value : Coord → Scalar) (coord : Coord) : Scalar :=
  (u.fold elem ((Scalar.float identity).seed elem) (groupOf axis shape value coord)).cast elem

/-- The shape of an aggregate: the axis with length one, or no axis. -/
def groupShape (axis : Option Nat) (shape : Shape) : Shape :=
  match axis with
  | some number => shape.set number 1
  | none => []

/-- The strides of a shape and of its aggregate are words, and so are the products that count the
    aggregate along an axis. -/
def GroupFits (axis : Option Nat) (shape : Shape) : Prop :=
  (∀ number ∈ axis, shape.ReduceFits number) ∧ shape.StridesFit ∧
    (groupShape axis shape).StridesFit

instance (axis : Option Nat) (shape : Shape) : Decidable (GroupFits axis shape) :=
  inferInstanceAs (Decidable (_ ∧ _ ∧ _))

/-- An array without an empty axis has aggregates along any axis. -/
theorem groupFits_of_full {axis : Option Nat} {shape : Shape} (full : 0 ∉ shape)
    (counted : shape.count < Word.limit) : GroupFits axis shape := by
  refine ⟨fun number _ => Shape.reduceFits_of_full full counted number,
    Shape.stridesFit_of_full full counted, ?_⟩
  cases axis with
  | none => exact show Shape.StridesFit [] by decide
  | some number =>
    refine Shape.stridesFit_of_full (fun empty => ?_) ?_
    · rcases List.mem_or_eq_of_mem_set empty with old | new
      · exact full old
      · exact absurd new (by decide)
    · exact lt_of_le_of_lt (Shape.count_set_one_le full number) counted

/-- An array with one axis is aggregated as a whole. -/
theorem groupFits_one (length : Nat) : GroupFits none [length] :=
  ⟨by simp, Shape.stridesFit_singleton length, show Shape.StridesFit [] by decide⟩

/-- The aggregate folds the groups of each array of a shape, or ends where the axis cannot be
    reduced. -/
structure Aggregate.Folds (aggregate : Aggregate) (u : Update) (identity : Float) (elem : ElemType)
    (axis : Option Nat) (shape : Shape) : Prop where
  gives : (∀ number ∈ axis, shape.ReduceFits number) →
    ∀ (t : Tensor) (source : ElemType) (value : Coord → Scalar), t.Represents source shape value →
      ∃ r, aggregate.apply t = .ok r ∧
        r.Covers elem (groupShape axis shape) shape (foldAt u identity elem axis shape value)
  ends : (¬ ∀ number ∈ axis, shape.ReduceFits number) → ∀ t : Tensor, t.shape = shape →
    aggregate.apply t = .error (.inTensor .overflow)

/-- An aggregate is built for every axis of the rank, and without an axis; it folds the groups
    of each array of that rank. -/
theorem Aggregate.build_folds (p : Primitive) (u : Update) (identity : Float) (elem : ElemType)
    (accumulates : Update.ofOperator (.prim p) elem = .ok u) (axis : Option Nat) (rank : Nat)
    (bounds : ∀ number ∈ axis, number < rank) (config : Config) :
    ∃ aggregate, build (.prim p) identity axis rank elem config = .ok aggregate ∧
      ∀ shape : Shape, shape.length = rank → aggregate.Folds u identity elem axis shape := by
  cases axis with
  | some number =>
    have bound : number < rank := bounds number rfl
    have built := AxisReducer.build_prim p u elem accumulates (.float identity) rank number number
      (Axis.resolve_natCast rank number bound) true false
    let reducer : AxisReducer := ⟨"careduce_" ++ p.name ++ "_axis" ++ toString number, p.name, u,
      (Scalar.float identity).seed elem, number, rank, elem, true, false⟩
    refine ⟨.axis (reducer.stepKernel config), by simp [build, built, reducer], ?_⟩
    intro shape sameRank
    have inShape : number < shape.length := by omega
    refine ⟨fun fits t source value represents => ?_, fun tooLarge t sameShape => ?_⟩
    · obtain ⟨r, reduced, result⟩ :=
        reducer.reduce_kept represents false sameRank bound (fits number rfl) rfl
      refine ⟨r, ?_, ?_⟩
      · simp [apply, Kernel.callTensor, AxisReducer.stepKernel_call, reduced, Value.toTensor]
      rw [show (shape.eraseIdx reducer.axis).insertIdx reducer.axis 1 = shape.set number 1 from
        Shape.insertIdx_eraseIdx_set shape number 1 inShape] at result
      refine Tensor.covers_of_fits (Nat.le_of_eq List.length_set) ?_ result ?_
      · rw [← show (shape.set number 1).length = shape.length from List.length_set, groupShape,
          Shape.padTo_self]
        exact Shape.fits_set_one shape number
      · intro coord inside
        rw [groupShape, Shape.shrink_set_one shape number coord inside]
        simp [reducer, foldAt, groupOf, List.eraseIdx_set_eq]
    · have unfit : ¬ t.shape.ReduceFits number := fun fits => tooLarge fun other named => by
        rwa [← Option.some.inj named, ← sameShape]
      have ended := reducer.reduce_overflow t false (by rw [Tensor.rank, sameShape, sameRank]) bound
        unfit
      simp [apply, Kernel.callTensor, AxisReducer.stepKernel_call, ended]
  | none =>
    refine ⟨.whole u ((Scalar.float identity).seed elem) elem, by simp [build, accumulates], ?_⟩
    intro shape sameRank
    refine ⟨fun _ t source value represents => ?_, fun tooLarge => absurd (by simp) tooLarge⟩
    refine ⟨_, rfl, Tensor.covers_of_fits (Nat.zero_le _) (Shape.fits_padTo_nil shape)
      (Tensor.single_represents _ elem) ?_⟩
    intro coord inside
    rw [foldAt, groupOf, ← represents.toList_eq]
    rfl

/-- The element at a coordinate less the greatest of its group. -/
def centredAt (input : ElemType) (axis : Option Nat) (shape : Shape) (value : Coord → Scalar)
    (coord : Coord) : Scalar :=
  (Rule.sub.apply input (value coord)
    (foldAt .max (-1 / 0) input axis shape value coord)).cast input

/-- The exponential of the centred element. -/
def powerAt (input output : ElemType) (axis : Option Nat) (shape : Shape)
    (value : Coord → Scalar) (coord : Coord) : Scalar :=
  (Scalar.float (centredAt input axis shape value coord).toFloat.exp).cast output

/-- The softmax at a coordinate, or its logarithm. -/
def softmaxAt (isLog : Bool) (input output : ElemType) (axis : Option Nat) (shape : Shape)
    (value : Coord → Scalar) (coord : Coord) : Scalar :=
  let total := foldAt .add 0 output axis shape (powerAt input output axis shape value) coord
  if isLog then
    (Rule.sub.apply output (centredAt input axis shape value coord)
      ((Scalar.float total.toFloat.log).cast output)).cast output
  else
    (Scalar.float ((powerAt input output axis shape value coord).toFloat / total.toFloat)).cast
      output

/-- The product of both arguments of the gradient at a coordinate. -/
def productAt (output : ElemType) (slope softmax : Coord → Scalar) (coord : Coord) : Scalar :=
  (Rule.mul.apply output (slope coord) (softmax coord)).cast output

/-- The gradient of a softmax at a coordinate. -/
def gradientAt (output : ElemType) (axis : Option Nat) (shape : Shape)
    (slope softmax : Coord → Scalar) (coord : Coord) : Scalar :=
  let total := foldAt .add 0 output axis shape (productAt output slope softmax) coord
  (Rule.sub.apply output (productAt output slope softmax coord)
    ((Rule.mul.apply output total (softmax coord)).cast output)).cast output

variable {axis : Option Nat} {shape : Shape} {source : ElemType} {t : Tensor}
  {value : Coord → Scalar}

/-- Centring succeeds and gives the centred elements. -/
theorem Softmax.centred_represents (s : Softmax)
    (greatest : s.greatest.Folds .max (-1 / 0) s.input axis shape) (fits : GroupFits axis shape)
    (represents : t.Represents source shape value) :
    ∃ centred, s.centred t = .ok centred ∧
      centred.Represents s.input shape (centredAt s.input axis shape value) := by
  obtain ⟨r, folded, covers⟩ := greatest.gives fits.1 t source value represents
  obtain ⟨centred, zipped, result⟩ :=
    represents.zipWith_covers covers fits.2.1 fits.2.2 s.input (Rule.sub.apply s.input)
  exact ⟨centred, by simp [Softmax.centred, folded, combine, zipped], result⟩

/-- Running a softmax succeeds and gives its formula at each coordinate. -/
theorem Softmax.run_represents (s : Softmax)
    (greatest : s.greatest.Folds .max (-1 / 0) s.input axis shape)
    (total : s.total.Folds .add 0 s.output axis shape) (fits : GroupFits axis shape)
    (represents : t.Represents source shape value) :
    ∃ result, s.run t = .ok result ∧ result.Represents s.output shape
      (softmaxAt s.isLog s.input s.output axis shape value) := by
  obtain ⟨centred, centring, centredRepresents⟩ := s.centred_represents greatest fits represents
  have powers : (exponential s.output centred).Represents s.output shape
      (powerAt s.input s.output axis shape value) :=
    centredRepresents.map s.output fun x => .float x.toFloat.exp
  obtain ⟨sum, summed, covers⟩ := total.gives fits.1 _ _ _ powers
  cases kind : s.isLog with
  | true =>
    have logarithms := covers.map s.output fun x => .float x.toFloat.log
    obtain ⟨result, zipped, resultRepresents⟩ := centredRepresents.zipWith_covers logarithms
      fits.2.1 fits.2.2 s.output (Rule.sub.apply s.output)
    refine ⟨result, ?_, resultRepresents⟩
    simp [Softmax.run, kind, Softmax.logRatio, centring, summed, combine, logarithm, zipped]
  | false =>
    obtain ⟨result, zipped, resultRepresents⟩ := powers.zipWith_covers covers fits.2.1 fits.2.2
      s.output fun x y => .float (x.toFloat / y.toFloat)
    refine ⟨result, ?_, resultRepresents⟩
    simp [Softmax.run, kind, Softmax.ratio, centring, summed, quotient, zipped]

/-- A softmax ends while it centres, where the strides or the count of an aggregate are no
    words. -/
theorem Softmax.run_overflow (s : Softmax)
    (greatest : s.greatest.Folds .max (-1 / 0) s.input axis shape)
    (tooLarge : ¬ GroupFits axis shape)
    (represents : t.Represents source shape value) :
    s.run t = .error (.inTensor .overflow) := by
  have centring : s.centred t = .error (.inTensor .overflow) := by
    by_cases reducible : ∀ number ∈ axis, shape.ReduceFits number
    · obtain ⟨r, folded, covers⟩ := greatest.gives reducible t source value represents
      have zipped := represents.zipWith_overflow covers (fun both => tooLarge ⟨reducible, both⟩)
        s.input (Rule.sub.apply s.input)
      simp [Softmax.centred, folded, combine, zipped, KernelError.ofTensor]
    · simp [Softmax.centred, greatest.ends reducible t represents.shape_eq]
  cases kind : s.isLog with
  | true => simp [Softmax.run, kind, Softmax.logRatio, centring]
  | false => simp [Softmax.run, kind, Softmax.ratio, centring]

/-- Running a gradient succeeds and gives its formula at each coordinate. -/
theorem SoftmaxGradient.run_represents (g : SoftmaxGradient)
    (total : g.total.Folds .add 0 g.output axis shape) (fits : GroupFits axis shape)
    (represents : t.Represents source shape value)
    (u : Tensor) (other : ElemType) (softmax : Coord → Scalar)
    (second : u.Represents other shape softmax) :
    ∃ result, g.run t u = .ok result ∧
      result.Represents g.output shape (gradientAt g.output axis shape value softmax) := by
  obtain ⟨reducible, readable, ownReadable⟩ := fits
  obtain ⟨product, multiplied, productRepresents⟩ :=
    represents.zipWith_covers second.covers readable readable g.output (Rule.mul.apply g.output)
  obtain ⟨sum, summed, covers⟩ := total.gives reducible _ _ _ productRepresents
  obtain ⟨scaled, rescaled, scaledRepresents⟩ :=
    covers.zipWith_represents second readable ownReadable g.output (Rule.mul.apply g.output)
  obtain ⟨result, subtracted, resultRepresents⟩ := productRepresents.zipWith_covers
    scaledRepresents.covers readable readable g.output (Rule.sub.apply g.output)
  refine ⟨result, ?_, resultRepresents⟩
  simp [SoftmaxGradient.run, combine, multiplied, summed, rescaled, subtracted]

/-- A gradient ends where the strides or the count of its aggregate are no words. -/
theorem SoftmaxGradient.run_overflow (g : SoftmaxGradient)
    (total : g.total.Folds .add 0 g.output axis shape) (tooLarge : ¬ GroupFits axis shape)
    (represents : t.Represents source shape value)
    (u : Tensor) (other : ElemType) (softmax : Coord → Scalar)
    (second : u.Represents other shape softmax) :
    g.run t u = .error (.inTensor .overflow) := by
  by_cases readable : shape.StridesFit
  case neg =>
    have multiplied := represents.zipWith_overflow second.covers (fun both => readable both.1)
      g.output (Rule.mul.apply g.output)
    simp [SoftmaxGradient.run, combine, multiplied, KernelError.ofTensor]
  obtain ⟨product, multiplied, productRepresents⟩ :=
    represents.zipWith_covers second.covers readable readable g.output (Rule.mul.apply g.output)
  by_cases reducible : ∀ number ∈ axis, shape.ReduceFits number
  · obtain ⟨sum, summed, covers⟩ := total.gives reducible _ _ _ productRepresents
    have rescaled := covers.zipWith_overflow second (fun both => tooLarge ⟨reducible, both⟩)
      g.output (Rule.mul.apply g.output)
    simp [SoftmaxGradient.run, combine, multiplied, summed, rescaled, KernelError.ofTensor]
  · have ended := total.ends reducible product productRepresents.shape_eq
    simp [SoftmaxGradient.run, combine, multiplied, ended]

end Lowering

end LoopKernels
