import LoopKernels.Proofs.Tensor.Combining
import LoopKernels.Proofs.Tensor.Soundness
import LoopKernels.Proofs.Tensor.Transposition

/-!
# Arrays over whole runs

An array is made in one of ten ways and then taken through any number of steps, each of
which replaces it or fails and leaves it as it was. Two things hold of every array on the
way: its storage has the family of its element type and one cell for each coordinate of
its shape, and a step whose arguments are proper finds an element wherever it reads. Both
come from one fact about a single step, that its result is derived from the array before.

Storage may be given as it is, so the elements of a narrow type can lie outside its bounds
from the start. Where they do not, no step brings them there.

Most steps report a read behind the last element. Two of them pass over it: a function of
two arrays puts a zero in its place, and a walk over all elements leaves the element out.
`Step.checked` is the step with every read reported; that it does the same as the step and
reports nothing is what makes every read inside.
-/

namespace LoopKernels.Tensor

/-- The ways to make an array. -/
inductive Origin where
  | storage (elem : ElemType) (shape : Shape) (cells : Cells)
  | scalars (elem : ElemType) (shape : Shape) (values : List Scalar)
  | floats (shape : Shape) (values : List Float)
  | singles (shape : Shape) (values : List Float)
  | int64s (shape : Shape) (values : List Int64)
  | int32s (shape : Shape) (values : List Int32)
  | bools (shape : Shape) (values : List Bool)
  | full (shape : Shape) (value : Scalar) (elem : ElemType)
  | zeros (shape : Shape) (elem : ElemType)
  | single (value : Scalar) (elem : ElemType)

/-- The array that is made, where the arguments fit together. -/
def Origin.make : Origin → Except TensorError Tensor
  | storage elem shape cells => ofCells elem shape cells
  | scalars elem shape values => ofScalars elem shape values
  | floats shape values => ofFloats shape values
  | singles shape values => ofSingles shape values
  | int64s shape values => ofInt64s shape values
  | int32s shape values => ofInt32s shape values
  | bools shape values => ofBools shape values
  | full shape value elem => Tensor.full shape value elem
  | zeros shape elem => Tensor.zeros shape elem
  | single value elem => .ok (Tensor.single value elem)

/-- The operations that take an array to an array. -/
inductive Step where
  | transpose (order : List Nat)
  | reshape (shape : Shape)
  | expandDims (axis : Nat)
  | broadcastTo (target : Shape)
  | convert (elem : ElemType)
  | map (elem : ElemType) (f : Scalar → Scalar)
  | zipWith (other : Tensor) (elem : ElemType) (f : Scalar → Scalar → Scalar)
  | setFlat (position : Nat) (value : Scalar)
  | lane (start length : Nat)

/-- The element at a position; a read behind the last element is reported. -/
def entry (t : Tensor) (position : Nat) : Except TensorError Scalar :=
  match t.flat? position with
  | some value => .ok value
  | none => .error (.pastEnd position t.size)

/-- All elements, each read at its position. -/
def readAll (t : Tensor) : Except TensorError (List Scalar) := (List.range t.size).mapM t.entry

/-- A function of two arrays, with every read reported that finds no element. -/
def zipWithChecked (a b : Tensor) (elem : ElemType) (f : Scalar → Scalar → Scalar) :
    Except TensorError Tensor := do
  let shape ← Shape.broadcast [a.shape, b.shape]
  let left ← a.stretchStrides shape
  let right ← b.stretchStrides shape
  let coords ← shape.walk
  let values ← coords.mapM fun coord => do
    let x ← a.entry (Shape.offset coord left)
    let y ← b.entry (Shape.offset coord right)
    pure (f x y)
  pure (withScalars elem shape values)

namespace Step

/-- The array after a step. -/
def apply (t : Tensor) : Step → Except TensorError Tensor
  | transpose order => t.transpose order
  | reshape shape => t.reshape shape
  | expandDims axis => t.expandDims axis
  | broadcastTo target => t.broadcastTo target
  | convert elem => .ok (t.convert elem)
  | map elem f => .ok (t.map elem f)
  | zipWith other elem f => t.zipWith other elem f
  | setFlat position value => t.setFlat position value
  | lane start length => t.lane start length

/-- The step with every read reported that finds no element. Rearranging reports its reads
    already; reshaping and writing read nothing. -/
def checked (t : Tensor) : Step → Except TensorError Tensor
  | convert elem =>
    if elem = t.elem then .ok t
    else do
      let values ← t.readAll
      pure (withScalars elem t.shape values)
  | map elem f => do
    let values ← t.readAll
    pure (withScalars elem t.shape (values.map f))
  | zipWith other elem f => t.zipWithChecked other elem f
  | step => step.apply t

/-- The array after a step; a step that fails leaves it as it was. -/
def after (step : Step) (t : Tensor) : Tensor :=
  match step.apply t with
  | .ok u => u
  | .error _ => t

/-- The second array is valid, and a lane lies inside the array it is taken from. -/
def Proper (t : Tensor) : Step → Prop
  | zipWith other _ _ => other.Valid
  | lane start length => length = 0 ∨ start + length ≤ t.size
  | _ => True

instance (t : Tensor) : (step : Step) → Decidable (step.Proper t)
  | zipWith other _ _ => inferInstanceAs (Decidable other.Valid)
  | lane start length => inferInstanceAs (Decidable (length = 0 ∨ start + length ≤ t.size))
  | transpose _ | reshape _ | expandDims _ | broadcastTo _ | convert _ | map _ _ | setFlat _ _ =>
    .isTrue trivial

end Step

/-- The arrays that a run of proper steps comes to. -/
inductive Reached (start : Tensor) : Tensor → Prop where
  | start : Reached start start
  | step {t : Tensor} (reached : Reached start t) (step : Step) (proper : step.Proper t) :
      Reached start (step.after t)

variable {t : Tensor}

/-! ## Representation -/

/-- Every way to make an array fits its storage to its type and shape. -/
theorem Origin.valid (origin : Origin) (made : origin.make = .ok t) : t.Valid := by
  cases origin with
  | full shape value elem => exact (full_sound shape value elem made).valid
  | zeros shape elem => exact (full_sound shape (.int 0) elem made).valid
  | single value elem =>
    obtain rfl := Except.ok.inj made
    exact (single_sound value elem).valid
  | _ =>
    simp only [make, ofScalars, ofFloats, ofSingles, ofInt64s, ofInt32s, ofBools] at made
    exact valid_of_ofCells made

/-- What one step makes of a valid array is derived from it. -/
theorem Step.derived (step : Step) (valid : t.Valid) {u : Tensor} (done : step.apply t = .ok u) :
    Derived t u := by
  cases step with
  | transpose order => exact valid.transpose_derived order done
  | reshape shape => exact valid.reshape_derived shape done
  | expandDims axis => exact valid.expandDims_derived axis done
  | broadcastTo target => exact valid.broadcastTo_derived target done
  | convert elem =>
    obtain rfl := Except.ok.inj done
    exact valid.convert_derived elem
  | map elem f =>
    obtain rfl := Except.ok.inj done
    exact valid.map_derived elem f
  | zipWith other elem f =>
    obtain ⟨shape, values, counted, length, rfl⟩ := zipWith_eq_ok t other elem f done
    exact withScalars_derived t elem shape values counted length
  | setFlat position value => exact valid.setFlat_derived position value done
  | lane start length => exact valid.lane_derived start length done

/-- The array after a step, failed or not, is derived from the array before it. -/
theorem Step.derived_after (step : Step) (valid : t.Valid) : Derived t (step.after t) := by
  unfold after
  split
  next u done => exact step.derived valid done
  next => exact .of_subset rfl valid fun _ member => member

/-- Every array of a run is valid, and within its bounds if the first one was. -/
theorem Reached.invariant {start : Tensor} (valid : start.Valid) (reached : Reached start t) :
    t.Valid ∧ (start.InRange → t.InRange) := by
  induction reached with
  | start => exact ⟨valid, id⟩
  | step _ step _ inductionHypothesis =>
    have derived := step.derived_after inductionHypothesis.1
    exact ⟨derived.valid, fun bounded => derived.inRange (inductionHypothesis.2 bounded)⟩

/-- Doubles have no bounds to keep to. -/
theorem inRange_of_float (float : t.elem.isFloat = true) : t.InRange := by
  intro s _
  cases type : t.elem <;>
    simp_all [ElemType.isFloat, ElemType.family, Scalar.inBounds, ElemType.bounds]

/-! ## Reads -/

/-- No read behind the last element is reported. -/
def Inside {α : Type} (outcome : Except TensorError α) : Prop :=
  ∀ position size, outcome ≠ .error (.pastEnd position size)

/-- An element is found at each position of the array. -/
theorem readAll_eq (t : Tensor) : t.readAll = .ok t.toList := by
  have each : ∀ position ∈ List.range t.size,
      t.entry position = .ok (t.toList.getD position (.int 0)) := by
    intro position listed
    have bound : position < t.cells.toList.length := by
      rw [Cells.length_toList]
      exact List.mem_range.mp listed
    simp [entry, flat?, Cells.get?_eq, toList, List.getElem?_eq_getElem bound]
  rw [readAll, Outcome.mapM_ok _ _ _ each]
  congr 1
  refine List.ext_getElem (by simp [toList, size]) ?_
  intro position _ bound
  simp [bound]

/-- A transposition reads no cell behind the last. -/
theorem Valid.transpose_inside (valid : t.Valid) (order : List Nat) :
    Inside (t.transpose order) := by
  intro position size failed
  by_cases proper : IsPermutation order t.rank ∧ TransposeFits t.shape order
  · obtain ⟨u, moved, -⟩ := valid.represents.transpose proper.1 proper.2
    simp [moved] at failed
  · rw [transpose_eq] at failed
    split at failed
    next permutes =>
      obtain ⟨moved, unread⟩ : order ≠ List.range t.rank ∧ ¬ t.shape.StridesFit :=
        not_or.mp fun fits => proper ⟨permutes, fits⟩
      simp [moved, unread] at failed
    next => simp at failed

/-- Broadcasting reads no cell behind the last. -/
theorem Valid.broadcastTo_inside (valid : t.Valid) (target : Shape) :
    Inside (t.broadcastTo target) := by
  intro position size failed
  rcases broadcastTo_error valid target _ failed with ⟨other, -⟩ | ⟨other, -⟩ <;> cases other

/-- Two computations that begin alike agree, and report no read behind the last element, when that
    holds of their beginning and of what follows on it. -/
theorem agree_inside_bind {α β : Type} {begin : Except TensorError α}
    {checked plain : α → Except TensorError β} (inside : Inside begin)
    (follows : ∀ a, begin = .ok a → checked a = plain a ∧ Inside (plain a)) :
    (begin >>= checked) = (begin >>= plain) ∧ Inside (begin >>= plain) := by
  cases begin with
  | error e => exact ⟨rfl, fun position size failed =>
      inside position size (congrArg Except.error (Except.error.inj failed))⟩
  | ok a => exact follows a rfl

/-- Finding a common shape reads no cell. -/
theorem broadcast_inside (shapes : List Shape) : Inside (Shape.broadcast shapes) := by
  intro position size failed
  unfold Shape.broadcast at failed
  split at failed <;> cases failed

/-- Finding strides reads no cell. -/
theorem stretchStrides_inside (t : Tensor) (shape : Shape) : Inside (t.stretchStrides shape) := by
  intro position size failed
  rcases stretchStrides_error failed with ⟨same, -⟩ | ⟨same, -⟩ <;> cases same

/-- Listing coordinates reads no cell. -/
theorem walk_inside (shape : Shape) : Inside shape.walk := by
  intro position size failed
  unfold Shape.walk at failed
  split at failed <;> cases failed

/-- Along the strides to a common shape every element of both arrays is found. -/
theorem Valid.mapM_entries (valid : t.Valid) {other : Tensor} (second : other.Valid)
    (f : Scalar → Scalar → Scalar) {shape : Shape} {left right : List Nat} {coords : List Coord}
    (leftFound : t.stretchStrides shape = .ok left)
    (rightFound : other.stretchStrides shape = .ok right) (visited : shape.walk = .ok coords) :
    (coords.mapM fun coord => do
      let x ← t.entry (Shape.offset coord left)
      let y ← other.entry (Shape.offset coord right)
      pure (f x y)) =
    .ok (coords.map fun coord => pair f (t.flat? (Shape.offset coord left))
      (other.flat? (Shape.offset coord right))) := by
  obtain ⟨-, rfl⟩ := Shape.walk_eq_ok.mp visited
  refine Outcome.mapM_ok _ _ _ ?_
  intro coord listed
  have inside := (Shape.mem_coordinates shape coord).mp listed
  have first := valid.represents.flat?_stretched shape left
    (stretchStrides_eq_ok.mp leftFound).2 coord inside
  have last := second.represents.flat?_stretched shape right
    (stretchStrides_eq_ok.mp rightFound).2 coord inside
  simp [entry, first, last, pair]

/-- Two arrays of a common shape are combined without a missing element. -/
theorem Valid.zipWith_inside (valid : t.Valid) (other : Tensor) (second : other.Valid)
    (elem : ElemType) (f : Scalar → Scalar → Scalar) :
    t.zipWithChecked other elem f = t.zipWith other elem f ∧
      Inside (t.zipWith other elem f) := by
  rw [zipWithChecked, Tensor.zipWith]
  refine agree_inside_bind (broadcast_inside _) fun shape _ => ?_
  refine agree_inside_bind (stretchStrides_inside t shape) fun left leftFound => ?_
  refine agree_inside_bind (stretchStrides_inside other shape) fun right rightFound => ?_
  refine agree_inside_bind (walk_inside shape) fun coords visited => ?_
  rw [valid.mapM_entries second f leftFound rightFound visited]
  exact ⟨rfl, by simp [Inside]⟩

/-- A lane inside the array is found. -/
theorem lane_inside (start length : Nat)
    (within : length = 0 ∨ start + length ≤ t.size) : Inside (t.lane start length) := by
  have stored : ∀ position ∈ List.range' start length,
      t.cells.toList[position]? = some (t.cells.toList.getD position (.int 0)) := by
    intro position listed
    have bound : position < t.cells.toList.length := by
      rw [Cells.length_toList]
      have place := List.mem_range'_1.mp listed
      have enough : start + length ≤ t.cells.size := within.resolve_left (by omega)
      omega
    simp [List.getElem?_eq_getElem bound]
  obtain ⟨cells, gathered, -⟩ := Cells.gather_ok t.cells _ _ stored
  have taken : ¬ (length ≠ 0 ∧ t.size < start + length) := by omega
  intro position size failed
  simp only [Tensor.lane, if_neg taken, gathered] at failed
  simp at failed

/-- Reshaping reads nothing. -/
theorem reshape_inside (t : Tensor) (shape : Shape) : Inside (t.reshape shape) := by
  rw [Tensor.reshape, Shape.elementCount_eq]
  by_cases fits : shape.CountFits
  · by_cases same : shape.count = t.size <;> simp [fits, same, Inside]
  · simp [fits, Inside]

/-- A proper step of a valid array does the same with every read reported, and reports none. -/
theorem Step.reads_inside (step : Step) (valid : t.Valid) (proper : step.Proper t) :
    step.checked t = step.apply t ∧ Inside (step.apply t) := by
  cases step with
  | transpose order => exact ⟨rfl, valid.transpose_inside order⟩
  | reshape shape =>
    refine ⟨rfl, ?_⟩
    exact reshape_inside t shape
  | expandDims axis =>
    refine ⟨rfl, ?_⟩
    rw [apply, Tensor.expandDims]
    split
    · simp [Inside]
    · exact reshape_inside t _
  | broadcastTo target => exact ⟨rfl, valid.broadcastTo_inside target⟩
  | convert elem =>
    refine ⟨?_, by simp [apply, Inside]⟩
    by_cases same : elem = t.elem
    · simp [checked, apply, Tensor.convert, same]
    · simp [checked, apply, Tensor.convert, same, readAll_eq]
  | map elem f => exact ⟨by simp [checked, apply, Tensor.map, readAll_eq], by simp [apply, Inside]⟩
  | zipWith other elem f => exact valid.zipWith_inside other proper elem f
  | setFlat position value =>
    refine ⟨rfl, ?_⟩
    intro _ _ failed
    simp only [apply, Tensor.setFlat] at failed
    split at failed <;> simp at failed
  | lane start length => exact ⟨rfl, lane_inside start length proper⟩

/-- An axis can be inserted wherever there is a place for it, if the count can be formed; beyond the
    rank it is refused by its number. -/
theorem Valid.expandDims_error (valid : t.Valid) (axis : Nat) :
    (t.rank < axis → t.expandDims axis = .error (.axis (signedAxis axis) t.rank)) ∧
      (axis ≤ t.rank → (∃ u, t.expandDims axis = .ok u) ∧ t.shape.CountFits ∨
        t.expandDims axis = .error .overflow ∧ ¬ t.shape.CountFits) := by
  refine ⟨fun beyond => if_pos beyond, ?_⟩
  intro place
  by_cases fits : t.shape.CountFits
  · obtain ⟨u, done, -⟩ := valid.represents.expandDims axis place fits
    exact .inl ⟨⟨u, done⟩, fits⟩
  · refine .inr ⟨?_, fits⟩
    rw [Tensor.expandDims, if_neg (Nat.not_lt.mpr place), Tensor.reshape, Shape.elementCount_eq,
      Shape.take_cons_drop t.shape axis 1 place,
      if_neg (mt (Shape.countFits_insertIdx_one t.shape axis place).mp fits)]
    rfl

/-- An axis is refused beyond the rank, and where the count cannot be formed. -/
theorem Valid.expandDims_fails_iff (valid : t.Valid) (axis : Nat) :
    (∃ e, t.expandDims axis = .error e) ↔ t.rank < axis ∨ ¬ t.shape.CountFits := by
  obtain ⟨beyond, within⟩ := valid.expandDims_error axis
  by_cases place : t.rank < axis
  · simp [place, beyond place]
  · rcases within (Nat.le_of_not_lt place) with ⟨⟨u, done⟩, fits⟩ | ⟨failed, tooLarge⟩
    · simp [place, done, fits]
    · simp [failed, tooLarge]

/-- Every array of a run of proper steps, from any array that can be made, has storage of the
    family of its element type and of the size of its shape. No proper step taken from it reads
    behind the last element. An axis is refused beyond its rank, and otherwise only where the
    lengths before an empty axis multiply to no word. If the first array holds doubles or keeps to
    the bounds of its type, then so does every array of the run that has a truth-value or integer
    type. -/
theorem runs_keep_representation (origin : Origin) (start : Tensor)
    (made : origin.make = .ok start) (t : Tensor) (reached : Reached start t) :
    t.Valid ∧
      (∀ step : Step, step.Proper t → step.checked t = step.apply t ∧ Inside (step.apply t)) ∧
      (∀ axis, (∃ e, t.expandDims axis = .error e) ↔ t.rank < axis ∨ ¬ t.shape.CountFits) ∧
      (0 ∉ t.shape → t.shape.CountFits) ∧
      ((start.elem.isFloat = true ∨ start.InRange) → t.elem.isFloat = false → t.InRange) := by
  obtain ⟨valid, keeps⟩ := reached.invariant (origin.valid made)
  refine ⟨valid, fun step proper => step.reads_inside valid proper, valid.expandDims_fails_iff,
    fun full => Shape.countFits_of_full full valid.2.2, ?_⟩
  rintro (float | bounded) -
  · exact keeps (inRange_of_float float)
  · exact keeps bounded

/-- Two bytes below each other. -/
def column : Origin := .storage .i8 [2, 1] (.signed #[100, -100])

/-- No bytes, the empty axis between two long ones. -/
def between : Origin := .storage .i8 [2 ^ 32, 0, 2 ^ 32] (.signed #[])

/-- A column laid down, added to three integers, refused another shape, and cut: its bytes wrap on
    the way and end within their bounds. An array without elements gets another axis until its long
    axes stand together in front. -/
theorem runs_keep_representation_column :
    ∃ start t, column.make = .ok start ∧ start.InRange ∧ Reached start t ∧
      t = ⟨.i8, [3], .signed #[-106, -50, -112]⟩ ∧ t.Valid ∧ t.InRange ∧
      ∃ empty moved, between.make = .ok empty ∧ Reached empty moved ∧
        (∃ e, moved.expandDims 0 = .error e) ∧ ¬ ∃ e, empty.expandDims 0 = .error e := by
  let start : Tensor := ⟨.i8, [2, 1], .signed #[100, -100]⟩
  have bounded : start.InRange := by decide
  have row : Reached start ⟨.i8, [1, 2], .signed #[100, -100]⟩ :=
    Reached.start.step (.transpose [1, 0]) trivial
  have sums : Reached start ⟨.i8, [3, 2], .signed #[101, -99, -106, -50, -112, -56]⟩ :=
    row.step (.zipWith ⟨.i64, [3, 1], .signed #[1, 50, 300]⟩ .i8 (Rule.add.apply .i8)) (by decide)
  have refused : Reached start ⟨.i8, [3, 2], .signed #[101, -99, -106, -50, -112, -56]⟩ :=
    sums.step (.reshape [7]) trivial
  have cut : Reached start ⟨.i8, [3], .signed #[-106, -50, -112]⟩ :=
    refused.step (.lane 2 3) (by decide)
  obtain ⟨valid, -, -, -, keeps⟩ := runs_keep_representation column start rfl _ cut
  let empty : Tensor := ⟨.i8, [2 ^ 32, 0, 2 ^ 32], .signed #[]⟩
  have made : between.make = .ok empty := by decide
  have turned : (Step.transpose [0, 2, 1]).after empty =
      ⟨.i8, [2 ^ 32, 2 ^ 32, 0], .signed #[]⟩ := by decide +kernel
  have moved : Reached empty ⟨.i8, [2 ^ 32, 2 ^ 32, 0], .signed #[]⟩ := by
    rw [← turned]
    exact Reached.start.step (.transpose [0, 2, 1]) trivial
  obtain ⟨-, -, before, -⟩ := runs_keep_representation between empty made _ .start
  obtain ⟨-, -, after, -⟩ := runs_keep_representation between empty made _ moved
  refine ⟨start, _, rfl, bounded, cut, rfl, valid, keeps (.inr bounded) rfl, empty, _, made, moved,
    ?_, ?_⟩
  · rw [after]
    decide
  · rw [before]
    decide

end LoopKernels.Tensor
