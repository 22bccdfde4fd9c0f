import LoopKernels.Reduction.Axes
import LoopKernels.Proofs.Reduction.Aggregate
import LoopKernels.Proofs.Reduction.Lanes
import LoopKernels.Proofs.Shape.Axes

/-!
# Reducing several axes at once

Reducing axis after axis gives, at each coordinate of the kept axes, the aggregate of all
elements whose kept coordinates match. The axes are reduced from the highest down, so
erasing them one by one from a coordinate leaves its kept entries. One step replaces
the elements along an axis by their aggregate; an aggregate of aggregates being the
aggregate of everything, the chain of steps aggregates jointly, if every step forms
strides and counts that are words.
-/

namespace LoopKernels

/-- All coordinates of a shape: those of the other axes, each with every index on the axis. -/
theorem Shape.coordinates_split (shape : Shape) (axis : Nat) (bound : axis < shape.length) :
    (Shape.coordinates shape).Perm
      ((Shape.coordinates (shape.eraseIdx axis)).flatMap fun rest =>
        (List.range (shape.getD axis 0)).map (rest.insertIdx axis ·)) := by
  induction shape generalizing axis with
  | nil => simp at bound
  | cons length shape inductionHypothesis =>
    cases axis with
    | zero =>
      have swapped := Multiset.bind_map_comm (List.range length : Multiset Nat)
        (Shape.coordinates shape : Multiset Coord) (f := fun index rest => index :: rest)
      simpa [Shape.coordinates_cons, Multiset.coe_bind] using swapped
    | succ axis =>
      have behind := inductionHypothesis axis (by simpa using bound)
      have each : (Shape.coordinates (length :: shape)).Perm
          ((List.range length).flatMap fun index =>
            ((Shape.coordinates (shape.eraseIdx axis)).flatMap fun rest =>
              (List.range (shape.getD axis 0)).map (rest.insertIdx axis ·)).map (index :: ·)) := by
        rw [Shape.coordinates_cons]
        exact List.Perm.flatMap_left _ fun index _ => behind.map (index :: ·)
      simpa [Shape.coordinates_cons, List.flatMap_assoc, List.map_flatMap, List.flatMap_map,
        Function.comp_def] using each

/-- The elements at the coordinates whose kept part is a given one. -/
def matching (shape : Shape) (integer : Coord → Int) (kept : Coord → Coord) (target : Coord) :
    Multiset Int :=
  (((Shape.coordinates shape).filter fun coord => kept coord = target).map integer : List Int)

/-- Only the kept parts of the coordinates of the shape matter. -/
theorem matching_congr (shape : Shape) (integer : Coord → Int) (kept other : Coord → Coord)
    (target : Coord)
    (same : ∀ coord, Shape.contains shape coord = true → kept coord = other coord) :
    matching shape integer kept target = matching shape integer other target := by
  unfold matching
  rw [List.filter_congr fun coord member => ?_]
  rw [same coord ((Shape.mem_coordinates shape coord).mp member)]

/-- The elements that match behind one more axis: the lanes along it at the coordinates that
    match without it. -/
theorem matching_split (shape : Shape) (integer : Coord → Int) (axis : Nat) (rest : List Nat)
    (target : Coord) (bound : axis < shape.length) :
    matching shape integer (eraseAxes (axis :: rest)) target =
      ((((Shape.coordinates (shape.eraseIdx axis)).filter fun coord =>
        eraseAxes rest coord = target) : List Coord) : Multiset Coord).bind fun coord =>
        ((List.range (shape.getD axis 0)).map fun index =>
          integer (coord.insertIdx axis index) : List Int) := by
  have split := ((Shape.coordinates_split shape axis bound).filter fun coord =>
    eraseAxes (axis :: rest) coord = target).map integer
  rw [List.filter_flatMap, List.map_flatMap] at split
  rw [matching, Multiset.coe_eq_coe.mpr split, ← Multiset.coe_bind, ← Multiset.filter_coe,
    Multiset.bind_filter]
  refine Multiset.bind_congr ?_
  intro coord _
  -- Erasing the inserted index leaves the coordinate: all indices match, or none does.
  have same : ∀ index, eraseAxes (axis :: rest) (coord.insertIdx axis index) =
      eraseAxes rest coord := by
    intro index
    simp [eraseAxes]
  by_cases found : eraseAxes rest coord = target
  · simp [List.filter_map, Function.comp_def, same, found]
  · simp [List.filter_map, Function.comp_def, same, found]

/-- A coordinate of a shape occurs once among its coordinates. -/
theorem Shape.filter_coordinates_eq (shape : Shape) (coord : Coord)
    (inside : Shape.contains shape coord = true) :
    (Shape.coordinates shape).filter (fun other => other = coord) = [coord] := by
  refine List.perm_singleton.mp ((List.perm_ext_iff_of_nodup
    ((Shape.nodup_coordinates shape).filter _) (List.nodup_singleton coord)).mpr ?_)
  intro other
  rw [List.mem_filter, Shape.mem_coordinates, decide_eq_true_eq, List.mem_singleton]
  exact ⟨fun both => both.2, fun same => ⟨same ▸ inside, same⟩⟩

/-- With every axis kept, a coordinate matches itself alone. -/
theorem matching_nil (shape : Shape) (integer : Coord → Int) (coord : Coord)
    (inside : Shape.contains shape coord = true) :
    matching shape integer (eraseAxes []) coord = {integer coord} := by
  have only : (Shape.coordinates shape).filter (fun other => eraseAxes [] other = coord) =
      [coord] :=
    Shape.filter_coordinates_eq shape coord inside
  rw [matching, only]
  rfl

/-- With one axis taken out, the elements along it match. -/
theorem matching_single (shape : Shape) (integer : Coord → Int) (axis : Nat) (coord : Coord)
    (bound : axis < shape.length) (inside : Shape.contains (shape.eraseIdx axis) coord = true) :
    matching shape integer (eraseAxes [axis]) coord =
      ((List.range (shape.getD axis 0)).map fun index => integer (coord.insertIdx axis index) :
        List Int) := by
  have only : (Shape.coordinates (shape.eraseIdx axis)).filter
      (fun other => eraseAxes [] other = coord) = [coord] :=
    Shape.filter_coordinates_eq _ coord inside
  rw [matching_split shape integer axis [] coord bound, only, Multiset.coe_singleton,
    Multiset.singleton_bind]

variable {p : Primitive} {e : ElemType} {t : Tensor} {shape : Shape} {value : Coord → Scalar}
  {integer : Coord → Int}

/-- Reducing one axis replaces the elements along it by their aggregate. -/
theorem AxisReducer.reduce_aggregates (supported : p ∈ Primitive.aggregating) (r : AxisReducer)
    (isUpdate : Update.ofPrimitive? p = some r.update) (seed : r.seed.Holds e (p.aggregate e 0))
    (type : r.elem = e) (removed : r.keepDims = false) (array : r.returnScalar = false)
    (sameRank : shape.length = r.rank) (bound : r.axis < r.rank)
    (fits : shape.ReduceFits r.axis) (represents : t.Represents e shape value)
    (holds : ∀ coord, Shape.contains shape coord = true → (value coord).Holds e (integer coord))
    (checked : Bool) :
    ∃ u reduced, r.reduce t checked = .ok (.tensor u) ∧
      u.Represents e (shape.eraseIdx r.axis) reduced ∧
      ∀ rest, Shape.contains (shape.eraseIdx r.axis) rest = true →
        (reduced rest).Holds e (p.aggregate e ((List.range (shape.getD r.axis 0)).map fun index =>
          integer (rest.insertIdx r.axis index) : List Int)) := by
  obtain ⟨u, ran, result⟩ := r.reduce_removed represents checked sameRank bound fits removed
    (.inr array)
  rw [type] at result
  refine ⟨u, _, ran, result, ?_⟩
  intro rest inside
  have lane := p.foldFrom_holds supported r.update isUpdate e seed.isFloat_eq
    (List.range (shape.getD r.axis 0)) (fun index => value (rest.insertIdx r.axis index))
    (fun index => integer (rest.insertIdx r.axis index))
    (fun index listed => holds _ (Shape.contains_insert shape r.axis index rest (by omega)
      (List.mem_range.mp listed) inside)) 0 r.seed 0 seed
  rw [zero_add] at lane
  have folded :
      (r.update.fold e r.seed (laneAt r.axis (shape.getD r.axis 0) value rest)).Holds e _ := lane
  rwa [folded.cast_self]

/-- A chain of reductions from the highest axis down aggregates the elements that match on
    the axes it leaves.

    Induction on the axes. The first step gives an array whose elements are aggregates of
    lanes; the rest of the chain aggregates those, and the aggregates join. -/
theorem AxesReducer.chain_aggregates (supported : p ∈ Primitive.aggregating) (u : Update)
    (isUpdate : Update.ofPrimitive? p = some u) (exact : e.isFloat = false) (seed : Scalar)
    (seedHolds : (seed.seed e).Holds e (p.aggregate e 0)) (config : Config) (axes : List Nat)
    (number rank : Nat) (descending : axes.Pairwise (· > ·)) (bounds : ∀ axis ∈ axes, axis < rank)
    (t : Tensor) (shape : Shape) (value : Coord → Scalar) (integer : Coord → Int)
    (sameRank : shape.length = rank) (fits : shape.ChainFits axes)
    (represents : t.Represents e shape value)
    (holds : ∀ coord, Shape.contains shape coord = true → (value coord).Holds e (integer coord)) :
    ∃ reducers result reduced, chain (.prim p) seed e number rank axes = .ok reducers ∧
      runSteps (reducers.map (·.stepKernel config)) t = .ok result ∧
      result.Represents e (eraseAxes axes shape) reduced ∧
      ∀ coord, Shape.contains (eraseAxes axes shape) coord = true →
        (reduced coord).Holds e
          (p.aggregate e (matching shape integer (eraseAxes axes) coord)) := by
  induction axes generalizing number rank t shape value integer with
  | nil =>
    refine ⟨[], t, value, rfl, rfl, represents, ?_⟩
    intro coord inside
    have here : (value coord).Holds e (integer coord) := holds coord inside
    rw [matching_nil shape integer coord inside,
      p.aggregate_singleton supported e exact _ here.wrap_eq]
    exact here
  | cons axis rest inductionHypothesis =>
    rw [List.pairwise_cons] at descending
    rw [List.forall_mem_cons] at bounds
    let first : AxisReducer := ⟨"careduce_axes_fn_" ++ toString number, p.name, u, seed.seed e,
      axis, rank, e, false, false⟩
    obtain ⟨between, lanes, ran, betweenRepresents, betweenHolds⟩ :=
      first.reduce_aggregates supported isUpdate seedHolds rfl rfl rfl sameRank bounds.1 fits.1
        represents holds false
    have shorter : (shape.eraseIdx axis).length = rank - 1 := by
      rw [List.length_eraseIdx_of_lt (by omega), sameRank]
    obtain ⟨reducers, result, reduced, built, finished, resultRepresents, resultHolds⟩ :=
      inductionHypothesis (number + 1) (rank - 1) descending.2
        (fun later listed => by have := descending.1 later listed; omega) between _ lanes _ shorter
        fits.2 betweenRepresents betweenHolds
    refine ⟨first :: reducers, result, reduced, ?_, ?_, resultRepresents, fun coord inside => ?_⟩
    · have head := AxisReducer.build_prim p u e (Update.ofOperator_prim isUpdate exact) seed rank
        axis axis (Axis.resolve_natCast rank axis bounds.1) false false
      simp [chain, head, built, first]
    · simp [runSteps, AxisReducer.stepKernel_call, ran, Value.toTensor, finished]
    · have joined := resultHolds coord inside
      rw [matching, ← Multiset.map_coe, p.aggregate_bind e exact] at joined
      rwa [matching_split shape integer axis rest coord (by omega)]

/-- The distinct axis that a single number denotes. -/
theorem Axis.resolveAll_singleton (rank : Nat) (number : Int) (resolved : List Nat)
    (done : Axis.resolveAll rank [number] = .ok resolved) :
    ∃ axis, Axis.resolve rank number = .ok axis ∧ resolved = [axis] := by
  obtain ⟨axis, denotes, rest⟩ := (Outcome.bind_eq_ok _ _ _).mp done
  refine ⟨axis, denotes, ?_⟩
  simpa [Axis.resolveInto, eq_comm] using rest

/-- Any list but that of a single number is reduced by a chain. -/
theorem Reducer.build_several (op : Operator) (seed : Scalar) (numbers : List Int) (rank : Nat)
    (e : ElemType) (inputName : String) (returnScalar : Bool) (config : Config)
    (several : ¬ ∃ number, numbers = [number]) :
    build op seed numbers rank e inputName returnScalar config =
      AxesReducer.build op seed numbers rank e inputName returnScalar config >>=
        fun reducer => pure (.axes reducer) := by
  unfold build
  split
  · exact absurd ⟨_, rfl⟩ several
  · rfl

/-- The reduction of a list of axes, in one loop or in a chain of loops, aggregates the
    elements that match on the axes it leaves. -/
theorem Reducer.build_aggregates (supported : p ∈ Primitive.aggregating) (u : Update)
    (isUpdate : Update.ofPrimitive? p = some u) (exact : e.isFloat = false) (seed : Scalar)
    (seedHolds : (seed.seed e).Holds e (p.aggregate e 0)) (config : Config) (numbers : List Int)
    (rank : Nat) (resolved : List Nat) (denote : Axis.resolveAll rank numbers = .ok resolved)
    (distinct : resolved.Nodup) (bounds : ∀ axis ∈ resolved, axis < rank) (inputName : String)
    (options : Options) (sameRank : shape.length = rank)
    (fits : shape.ChainFits (AxesReducer.descending resolved))
    (represents : t.Represents e shape value)
    (holds : ∀ coord, Shape.contains shape coord = true → (value coord).Holds e (integer coord)) :
    ∃ reducer result reduced,
      build (.prim p) seed numbers rank e inputName false config = .ok reducer ∧
      reducer.definition.run options [t] = .ok (.tensor result) ∧
      result.Represents e (eraseAxes (AxesReducer.descending resolved) shape) reduced ∧
      ∀ coord, Shape.contains (eraseAxes (AxesReducer.descending resolved) shape) coord = true →
        (reduced coord).Holds e (p.aggregate e
          (matching shape integer (eraseAxes (AxesReducer.descending resolved)) coord)) := by
  by_cases single : ∃ number, numbers = [number]
  · obtain ⟨number, rfl⟩ := single
    obtain ⟨axis, denotes, rfl⟩ := Axis.resolveAll_singleton rank number resolved denote
    rw [AxesReducer.descending_singleton] at fits ⊢
    have bound : axis < rank := bounds axis List.mem_cons_self
    let reducer : AxisReducer := ⟨"careduce_" ++ p.name ++ "_axis" ++ toString axis, p.name, u,
      seed.seed e, axis, rank, e, false, false⟩
    have built : AxisReducer.build (.prim p) seed number rank e false false = .ok reducer :=
      AxisReducer.build_prim p u e (Update.ofOperator_prim isUpdate exact) seed rank number axis
        denotes false false
    obtain ⟨result, reduced, ran, resultRepresents, resultHolds⟩ :=
      reducer.reduce_aggregates supported isUpdate seedHolds rfl rfl rfl sameRank bound fits.1
        represents holds options.boundscheck
    refine ⟨.axis reducer, result, reduced, by simp [build, built], ran, resultRepresents, ?_⟩
    intro coord inside
    rw [matching_single shape integer axis coord (by omega) inside]
    exact resultHolds coord inside
  · have several := build_several (.prim p) seed numbers rank e inputName false config single
    have update := Update.ofOperator_prim isUpdate exact
    obtain ⟨reducers, result, reduced, chained, ran, resultRepresents, resultHolds⟩ :=
      AxesReducer.chain_aggregates supported u isUpdate exact seed seedHolds config
        (AxesReducer.descending resolved) 0 rank (AxesReducer.pairwise_descending distinct)
        (fun axis listed => bounds axis ((AxesReducer.mem_descending resolved axis).mp listed))
        t shape value integer sameRank fits represents holds
    let reducer : AxesReducer := ⟨"careduce_" ++ p.name, inputName, AxesReducer.descending resolved,
      reducers.map (·.stepKernel config), false⟩
    refine ⟨.axes reducer, result, reduced, ?_, ?_, resultRepresents, resultHolds⟩
    · simp [reducer, several, AxesReducer.build, denote, KernelError.ofAxis, update, chained,
        Operator.name]
    · simp [reducer, definition, AxesReducer.definition, oneArgument, AxesReducer.reduce, ran]

/-- The reduction of one axis folds the lanes along it, however the axis is named. -/
theorem Reducer.build_lanes (u : Update) (isUpdate : Update.ofPrimitive? p = some u)
    (exact : e.isFloat = false) (seed : Scalar) (config : Config) (numbers : List Int) (rank : Nat)
    (axis : Nat) (denote : Axis.resolveAll rank numbers = .ok [axis]) (bound : axis < rank)
    (inputName : String) :
    ∃ reducer, build (.prim p) seed numbers rank e inputName false config = .ok reducer ∧
      ∀ (options : Options) (t : Tensor) (shape : Shape) (value : Coord → Scalar),
        shape.length = rank → shape.ReduceFits axis → t.Represents e shape value →
        ∃ result, reducer.definition.run options [t] = .ok (.tensor result) ∧
          result.Represents e (shape.eraseIdx axis) fun rest =>
            (u.fold e (seed.seed e) (laneAt axis (shape.getD axis 0) value rest)).cast e := by
  have update := Update.ofOperator_prim isUpdate exact
  by_cases single : ∃ number, numbers = [number]
  · obtain ⟨number, rfl⟩ := single
    obtain ⟨other, denotes, same⟩ := Axis.resolveAll_singleton rank number [axis] denote
    obtain rfl : axis = other := by simpa using same
    have built := AxisReducer.build_prim p u e update seed rank number axis denotes false false
    refine ⟨_, by simp only [build, built, Outcome.bind_ok]; rfl, ?_⟩
    intro options t shape value sameRank fits represents
    exact AxisReducer.reduce_removed _ represents options.boundscheck sameRank bound fits rfl
      (.inr rfl)
  · have built := AxisReducer.build_prim p u e update seed rank axis axis
      (Axis.resolve_natCast rank axis bound) false false
    let step : AxisReducer := ⟨"careduce_axes_fn_" ++ toString 0, p.name, u, seed.seed e, axis,
      rank, e, false, false⟩
    have chained : AxesReducer.chain (.prim p) seed e 0 rank [axis] = .ok [step] := by
      simp [AxesReducer.chain, built, step]
    let reducer : AxesReducer := ⟨"careduce_" ++ p.name, inputName, [axis],
      [step.stepKernel config], false⟩
    refine ⟨.axes reducer, ?_, ?_⟩
    · simp [reducer, build_several (.prim p) seed numbers rank e inputName false config single,
        AxesReducer.build, denote, KernelError.ofAxis, update, chained, Operator.name]
    · intro options t shape value sameRank fits represents
      obtain ⟨result, ran, folded⟩ :=
        step.reduce_removed represents false sameRank bound fits rfl (.inr rfl)
      refine ⟨result, ?_, folded⟩
      simp [reducer, definition, AxesReducer.definition, oneArgument, AxesReducer.reduce,
        AxesReducer.runSteps, AxisReducer.stepKernel_call, ran, Value.toTensor]

end LoopKernels
