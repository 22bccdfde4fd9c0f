import LoopKernels.Proofs.Lowering.JointReduction
import LoopKernels.Proofs.Reduction.Widening

/-!
# Sums and reductions by addition agree

A sum node takes one of three ways: all elements are added in one 64-bit type and the
total is cut to the type of the output, or nothing is added and the array is converted,
or the axes are reduced one after the other in the type of the output. A reduction node
by addition always takes the last way. On truth values and integers each of the three
gives the array whose elements are the sums of the elements that match on the kept
axes, wrapped once or, for truth values, joined by or. That array is determined by its
elements, so the nodes agree.

Reducing axis by axis forms strides and counts, which may be no words where the array
has no elements. The total of all elements needs neither, so there the nodes differ.
-/

namespace LoopKernels.Lowering

/-- Elements of the first type are summed in the second: anything but floats in an integer
    type, and truth values as truth values. -/
def Addable (d e : ElemType) : Prop :=
  (d.isFloat = false ∧ e.isInteger = true) ∨ (d = .bool ∧ e = .bool)

/-- The result holds, at each coordinate of the kept axes, the sum of the elements that match. -/
def SumsTo (x : Tensor) (e : ElemType) (kept : List Nat) (result : Tensor) : Prop :=
  ∃ value, result.Represents e (Tensor.pick x.shape kept) value ∧
    ∀ coord, Shape.contains (Tensor.pick x.shape kept) coord = true →
      (value coord).Holds e (Primitive.add.aggregate e
        (matching x.shape x.integer (Tensor.pick · kept) coord))

variable {d e : ElemType} {x : Tensor} {kept : List Nat}

/-- The sums determine the array. -/
theorem SumsTo.unique {first second : Tensor} (sums : SumsTo x e kept first)
    (again : SumsTo x e kept second) : first = second := by
  obtain ⟨value, represents, holds⟩ := sums
  obtain ⟨other, otherRepresents, otherHolds⟩ := again
  refine represents.unique second (otherRepresents.congr value ?_)
  intro coord inside
  exact (otherHolds coord inside).unique (holds coord inside)

/-- Types that can be added have no floats among them. -/
theorem Addable.exact (addable : Addable d e) : d.isFloat = false ∧ e.isFloat = false := by
  rcases addable with ⟨exact, integer⟩ | ⟨rfl, rfl⟩
  · exact ⟨exact, (e.family_of_isInteger integer).2⟩
  · exact ⟨rfl, rfl⟩

/-- Two types between which no converting is left to do, or a sum modulo the width. -/
theorem Addable.notBool (addable : Addable d e) : e.family ≠ .bool ∨ (d = .bool ∧ e = .bool) := by
  rcases addable with ⟨-, integer⟩ | same
  · exact .inl (e.family_of_isInteger integer).1
  · exact .inr same

/-- The elements that match, each wrapped into the type of the sum, have the same sum. -/
theorem aggregate_matching_wrap (exact : e.isFloat = false) (shape : Shape)
    (integer wrapped : Coord → Int)
    (wraps : ∀ coord, Shape.contains shape coord = true → wrapped coord = e.wrap (integer coord))
    (keep : Coord → Coord) (coord : Coord) :
    Primitive.add.aggregate e (matching shape wrapped keep coord) =
      Primitive.add.aggregate e (matching shape integer keep coord) := by
  have same : matching shape wrapped keep coord =
      (matching shape integer keep coord).map e.wrap := by
    rw [matching, matching, Multiset.map_coe, List.map_map]
    refine congrArg _ (List.map_congr_left ?_)
    intro place listed
    exact wraps place ((Shape.mem_coordinates shape place).mp (List.mem_filter.mp listed).1)
  rw [same, Primitive.aggregate_add_wrap e exact]

/-- The integers of a converted array are those of the array, wrapped. -/
theorem integer_convert (valid : x.Valid) (bounded : x.InRange) (xExact : x.elem.isFloat = false)
    (exact : e.isFloat = false) (coord : Coord) (inside : Shape.contains x.shape coord = true) :
    ((x.element coord).cast e).Holds e (e.wrap (x.integer coord)) :=
  Scalar.cast_holds _ e _ (valid.holds bounded xExact coord inside).integer_eq exact

/-- A reduction node by addition is compiled, and its kernel sums the arrays whose axes can be
    reduced one after the other. -/
theorem reduce_sums (axes : Option (List Int)) (input output : TensorType)
    (addable : Addable input.elem output.elem) (inRange : Axis.InRange input.rank axes)
    (outputRank : output.rank = (Axis.kept input.rank axes).length) (config : Config)
    (valid : x.Valid) (bounded : x.InRange) (type : x.elem = input.elem)
    (rank : x.rank = input.rank)
    (fits : x.shape.ChainFits (Axis.highestFirst input.rank axes)) :
    ∃ kernel result,
      (⟨.reduce (.prim .add) axes none, [input], [output]⟩ : Node).compile config = .ok kernel ∧
      kernel.call [x] = .ok (.tensor result) ∧
      SumsTo x output.elem (Axis.kept input.rank axes) result := by
  obtain ⟨inputExact, exact⟩ := addable.exact
  have xExact : x.elem.isFloat = false := type ▸ inputExact
  have identity := Primitive.add.seed_holds (by decide) output.elem exact 0 rfl
  have seedHolds : (((Scalar.float 0).seed output.elem).seed output.elem).Holds output.elem
      (Primitive.add.aggregate output.elem 0) := by
    rwa [identity.seed_self]
  obtain ⟨resolved, denote, distinct, members⟩ := Axis.resolveAll_ok input.rank axes inRange
  have bounds : ∀ axis ∈ resolved, axis < input.rank := fun axis listed =>
    ((members axis).mp listed).1
  have order := AxesReducer.descending_eq_highestFirst input.rank axes resolved distinct members
  have picked : ∀ xs : List Nat, xs.length = input.rank →
      eraseAxes (AxesReducer.descending resolved) xs =
        Tensor.pick xs (Axis.kept input.rank axes) := by
    rw [order]
    exact eraseAxes_highestFirst input.rank axes
  have converted := valid.convert_represents bounded xExact output.elem
  obtain ⟨reducer, result, value, built, ran, represents, holds⟩ :=
    Reducer.build_aggregates (by decide) .add rfl exact _ seedHolds config _ input.rank resolved
      denote distinct bounds "x" (Options.reduction config) rank (order ▸ fits) converted
      (integer_convert valid bounded xExact exact)
  rw [picked x.shape rank] at represents holds
  -- The kernel is given the array as it is; the signature converts what comes out.
  obtain ⟨u, ranPlain, same⟩ : ∃ u,
      reducer.definition.run (Options.reduction config) [x] = .ok (.tensor u) ∧
      u.convert output.elem = result := by
    rcases addable.notBool with notBool | ⟨inputBool, outputBool⟩
    · exact Reducer.run_convert _ seedHolds notBool config _ input.rank resolved denote bounds "x" _
        reducer built valid bounded xExact rank result represents.elem_eq ran
    · have unchanged : x.convert output.elem = x := by
        rw [Tensor.convert, if_pos (outputBool.trans (type.trans inputBool).symm)]
      rw [unchanged] at ran
      exact ⟨result, ran, by rw [Tensor.convert, if_pos represents.elem_eq.symm]⟩
  have resultRank : u.rank = output.rank := by
    have shapes : u.shape = result.shape := by
      rw [← same, Tensor.convert]
      split <;> rfl
    simp [Tensor.rank, shapes, represents.shape_eq, Tensor.pick, outputRank]
  refine ⟨⟨reducer.definition, some ⟨[.ofType input], .ofType output, false⟩,
    Options.reduction config⟩, result, ?_, ?_, value, represents, ?_⟩
  · exact compile_reduce (.prim .add) 0 rfl axes none input output config reducer built
  · rw [← same]
    exact Kernel.call_converted _ _ _ _ x u rank type ranPlain resultRank
  · intro coord inside
    have held := holds coord inside
    rw [aggregate_matching_wrap exact x.shape x.integer _ (fun _ _ => rfl)] at held
    rwa [matching_congr x.shape x.integer _ (Tensor.pick · (Axis.kept input.rank axes)) coord
      fun place member => picked place ((Shape.length_of_contains _ _ member).trans rank)] at held

/-- With no axis named, converting the array sums it. -/
theorem copy_sums (axes : Option (List Int)) (rank : Nat) (exact : e.isFloat = false)
    (valid : x.Valid) (bounded : x.InRange) (xExact : x.elem.isFloat = false)
    (sameRank : x.rank = rank) (none : ∀ axis < rank, ¬ Axis.Named rank axes axis) :
    SumsTo x e (Axis.kept rank axes) (x.convert e) := by
  have unchanged : ∀ xs : List Nat, xs.length = rank → xs = Tensor.pick xs (Axis.kept rank axes) :=
    fun xs sameRank => by
      have picked := eraseAxes_highestFirst rank axes xs sameRank
      rwa [Axis.highestFirst_none none] at picked
  refine ⟨fun coord => (x.element coord).cast e, ?_, ?_⟩
  · rw [← unchanged x.shape sameRank]
    exact valid.convert_represents bounded xExact e
  · intro coord inside
    rw [← unchanged x.shape sameRank] at inside
    have alone : matching x.shape x.integer (Tensor.pick · (Axis.kept rank axes)) coord =
        {x.integer coord} := by
      rw [← matching_nil x.shape x.integer coord inside]
      exact matching_congr _ _ _ _ coord fun place member =>
        (unchanged place ((Shape.length_of_contains _ _ member).trans sameRank)).symm
    rw [alone, ← Primitive.aggregate_add_wrap e exact, Multiset.map_singleton,
      Primitive.add.aggregate_singleton (by decide) e exact _ (e.wrap_wrap _)]
    exact integer_convert valid bounded xExact exact coord inside

/-- Truth values add up to at most their number, and to zero only when all are false. -/
theorem sum_of_bits (bits : List Int) (each : ∀ n ∈ bits, n = 0 ∨ n = 1) :
    0 ≤ bits.sum ∧ bits.sum ≤ bits.length ∧ (bits.sum = 0 ↔ ∀ n ∈ bits, n = 0) := by
  induction bits with
  | nil => simp
  | cons n bits inductionHypothesis =>
    rw [List.forall_mem_cons] at each
    obtain ⟨low, high, zero⟩ := inductionHypothesis each.2
    rw [List.sum_cons, List.length_cons, List.forall_mem_cons, ← zero]
    omega

/-- A count of truth values in a word tells whether one of them is true, as long as the word
    can count them all. -/
theorem wrap_count_of_bits (bits : List Int) (each : ∀ n ∈ bits, n = 0 ∨ n = 1)
    (counted : bits.length < 2 ^ 64) :
    ElemType.bool.wrap (ElemType.i64.wrap bits.sum) = Primitive.add.aggregate .bool bits := by
  obtain ⟨low, high, zero⟩ := sum_of_bits bits each
  have word : bits.sum.bmod (2 ^ 64) = 0 ↔ bits.sum = 0 := by
    constructor
    · intro wrapped
      have residue : (0 : Int) % ((2 ^ 64 : Nat) : Int) = bits.sum % ((2 ^ 64 : Nat) : Int) := by
        rw [← wrapped, Int.bmod_emod]
      omega
    · intro nothing
      rw [nothing]
      rfl
  simp only [ElemType.wrap, ElemType.family, ElemType.width, word, zero, Primitive.aggregate,
    Multiset.mem_coe, if_true]

/-- All elements added in their 64-bit type give their sum, wrapped once. -/
theorem total_wraps (valid : x.Valid) (bounded : x.InRange) (exact : x.elem.isFloat = false) :
    (Update.add.fold (SumShortcut.sumType x.elem) ((Scalar.int 0).cast (SumShortcut.sumType x.elem))
        x.toList).Holds (SumShortcut.sumType x.elem)
      ((SumShortcut.sumType x.elem).wrap ((Shape.coordinates x.shape).map x.integer).sum) := by
  have wide : (SumShortcut.sumType x.elem).family ≠ .bool ∧
      (SumShortcut.sumType x.elem).isFloat = false := by
    revert exact
    cases x.elem <;> decide
  have start := (Scalar.int 0).cast_holds (SumShortcut.sumType x.elem) 0 rfl wide.2
  have total := Update.foldFrom_add_holds _ wide.1 (Shape.coordinates x.shape) x.element x.integer
    (fun coord member => (valid.holds bounded exact coord
      ((Shape.mem_coordinates x.shape coord).mp member)).integer_eq) 0 _ 0 start
  rwa [← valid.represents.toList_eq, zero_add] at total

/-- The total of all elements, cut to the type of the output, is their sum in that type. -/
theorem total_holds (addable : Addable x.elem e) (valid : x.Valid) (bounded : x.InRange) :
    ((Update.add.fold (SumShortcut.sumType x.elem)
        ((Scalar.int 0).cast (SumShortcut.sumType x.elem)) x.toList).cast e).Holds e
      (Primitive.add.aggregate e ((Shape.coordinates x.shape).map x.integer : List Int)) := by
  obtain ⟨xExact, exact⟩ := addable.exact
  have cut := Scalar.cast_holds _ e _ (total_wraps valid bounded xExact).integer_eq exact
  rcases addable.notBool with notBool | ⟨xBool, rfl⟩
  · have wide : (SumShortcut.sumType x.elem).family ≠ .bool ∧
        (SumShortcut.sumType x.elem).isFloat = false ∧
        e.width ≤ (SumShortcut.sumType x.elem).width := by
      revert xExact
      cases x.elem <;> cases e <;> decide
    rw [e.wrap_wrap_of_width _ notBool exact wide.1 wide.2.1 wide.2.2] at cut
    have integers : e ≠ .bool := by
      rintro rfl
      exact notBool rfl
    simpa [Primitive.aggregate, integers] using cut
  · have sumType : SumShortcut.sumType x.elem = .i64 := by rw [xBool]; rfl
    rw [sumType] at cut ⊢
    rwa [wrap_count_of_bits] at cut
    · intro n member
      obtain ⟨coord, there, rfl⟩ := List.mem_map.mp member
      have held := valid.holds bounded xExact coord ((Shape.mem_coordinates x.shape coord).mp there)
      exact Primitive.zero_or_one _ (xBool ▸ held.wrap_eq)
    · have counted : x.shape.count < 2 ^ 64 := valid.2.2
      rwa [List.length_map, Shape.coordinates_length]

/-- With every axis named, the total sums the array. -/
theorem total_sums (addable : Addable x.elem e) (valid : x.Valid) (bounded : x.InRange) :
    SumsTo x e [] ((SumShortcut.total (SumShortcut.sumType x.elem) e e).run x) := by
  have total := total_holds addable valid bounded
  refine ⟨_, Tensor.single_represents _ e, ?_⟩
  intro coord inside
  obtain rfl : coord = [] := (Shape.contains_nil coord).mp inside
  have all : matching x.shape x.integer (Tensor.pick · []) [] =
      ((Shape.coordinates x.shape).map x.integer : List Int) := by
    rw [matching, List.filter_eq_self.mpr]
    simp [Tensor.pick]
  rw [all, total.cast_self, total.cast_self]
  exact total

/-- A node reduces the axes it names, each once. -/
theorem reducedAxes_ok (rank : Nat) (axes : Option (List Int)) (inRange : Axis.InRange rank axes) :
    ∃ reduced, reducedAxes axes rank = .ok reduced ∧ reduced.Nodup ∧
      ∀ axis, axis ∈ reduced ↔ axis < rank ∧ Axis.Named rank axes axis := by
  cases axes with
  | none =>
    refine ⟨Axis.every rank, rfl, List.nodup_range, ?_⟩
    intro axis
    simp [Axis.every, Axis.Named]
  | some listed =>
    obtain ⟨reduced, done, distinct, members⟩ :=
      Axis.resolveInto_ok rank listed [] (inRange listed rfl) List.nodup_nil
    refine ⟨reduced, ?_, distinct, ?_⟩
    · rw [reducedAxes, Axis.resolveAll, done]
      rfl
    · intro axis
      rw [members axis]
      simp [Axis.Named]

/-- As many distinct axes as the rank are all the axes. -/
theorem kept_eq_nil_iff (rank : Nat) (axes : Option (List Int)) (reduced : List Nat)
    (distinct : reduced.Nodup)
    (members : ∀ axis, axis ∈ reduced ↔ axis < rank ∧ Axis.Named rank axes axis) :
    Axis.kept rank axes = [] ↔ reduced.length = rank := by
  constructor
  · intro none
    have all : reduced.Perm (List.range rank) := by
      refine (List.perm_ext_iff_of_nodup distinct List.nodup_range).mpr fun axis => ?_
      rw [members, List.mem_range]
      refine and_iff_left_of_imp fun below => ?_
      simpa using List.filter_eq_nil_iff.mp none axis (List.mem_range.mpr below)
    simpa using all.length_eq
  · intro count
    have below : reduced ⊆ List.range rank := fun axis listed =>
      List.mem_range.mpr ((members axis).mp listed).1
    have all : reduced.Perm (List.range rank) :=
      (distinct.subperm below).perm_of_length_le (by simp [count])
    refine List.filter_eq_nil_iff.mpr ?_
    intro axis inside
    simpa using ((members axis).mp (all.mem_iff.mpr inside)).2

/-- A reduction node by addition returns the sums of the elements that match, or ends on an array
    with an empty axis whose strides and counts are no words. -/
theorem reduce_sums_or_overflow (axes : Option (List Int)) (input output : TensorType)
    (addable : Addable input.elem output.elem) (inRange : Axis.InRange input.rank axes)
    (outputRank : output.rank = (Axis.kept input.rank axes).length) (config : Config)
    (valid : x.Valid) (bounded : x.InRange) (type : x.elem = input.elem)
    (rank : x.rank = input.rank) :
    ∃ reduction,
      (⟨.reduce (.prim .add) axes none, [input], [output]⟩ : Node).compile config =
        .ok reduction ∧
      (x.shape.ChainFits (Axis.highestFirst input.rank axes) →
        ∃ result, reduction.call [x] = .ok (.tensor result) ∧
          SumsTo x output.elem (Axis.kept input.rank axes) result) ∧
      (¬ x.shape.ChainFits (Axis.highestFirst input.rank axes) →
        0 ∈ x.shape ∧ reduction.call [x] = .error (.inTensor .overflow)) := by
  have accumulates : Update.ofOperator (.prim .add) output.elem = .ok .add :=
    Update.ofOperator_prim rfl addable.exact.2
  have neutral : (Operator.prim .add).neutral = some 0 := rfl
  obtain ⟨reduction, compiled, ends⟩ :=
    reduce_overflow neutral axes none input output accumulates inRange config
  refine ⟨reduction, compiled, fun fits => ?_, fun tooLarge => ⟨?_, ends x valid type rank tooLarge⟩⟩
  · obtain ⟨same, result, again, called, sums⟩ := reduce_sums axes input output addable inRange
      outputRank config valid bounded type rank fits
    obtain rfl := Except.ok.inj (compiled.symm.trans again)
    exact ⟨result, called, sums⟩
  · exact by_contra fun full => tooLarge (Shape.chainFits_of_full _ full valid.2.2)

/-- A sum node is compiled to a total where all axes are summed, to a copy where none is, and
    otherwise to the kernel of the reduction node. -/
theorem compile_sum {axes : Option (List Int)} {reduced : List Nat} (input output : TensorType)
    (denote : reducedAxes axes input.rank = .ok reduced) (config : Config) :
    (⟨.sum axes none, [input], [output]⟩ : Node).compile config =
      if reduced.length = input.rank then
        .ok ⟨(SumShortcut.total (SumShortcut.sumType input.elem) output.elem
          output.elem).definition, none, { Options.ofConfig config with fastmath := true }⟩
      else if reduced.isEmpty then
        .ok ⟨(SumShortcut.copy output.elem).definition, none,
          { Options.ofConfig config with fastmath := true }⟩
      else (⟨.reduce (.prim .add) axes none, [input], [output]⟩ : Node).compile config := by
  simp only [Node.compile, Lowering.sum, Node.onlyInput, Node.onlyOutput, denote, Outcome.bind_ok]
  rfl

/-- A sum node and a reduction node by addition, of the same axes and types, are both compiled.
    Where the strides and counts of the reduction are words they return the same array, which holds
    the sums of the elements that match on the kept axes. Elsewhere, which takes an empty axis, the
    reduction ends; so does the sum, unless it is over all axes: then it returns its array. -/
theorem sum_agrees_with_reduction (axes : Option (List Int)) (input output : TensorType)
    (addable : Addable input.elem output.elem) (inRange : Axis.InRange input.rank axes)
    (outputRank : output.rank = (Axis.kept input.rank axes).length) (config : Config) (x : Tensor)
    (valid : x.Valid) (bounded : x.InRange) (type : x.elem = input.elem)
    (rank : x.rank = input.rank) :
    ∃ sum reduction,
      (⟨.sum axes none, [input], [output]⟩ : Node).compile config = .ok sum ∧
      (⟨.reduce (.prim .add) axes none, [input], [output]⟩ : Node).compile config =
        .ok reduction ∧
      (x.shape.ChainFits (Axis.highestFirst input.rank axes) → ∃ result,
        sum.call [x] = .ok (.tensor result) ∧ reduction.call [x] = .ok (.tensor result) ∧
        SumsTo x output.elem (Axis.kept input.rank axes) result) ∧
      (¬ x.shape.ChainFits (Axis.highestFirst input.rank axes) →
        0 ∈ x.shape ∧ reduction.call [x] = .error (.inTensor .overflow) ∧
        if Axis.kept input.rank axes = [] then ∃ result, sum.call [x] = .ok (.tensor result) ∧
          SumsTo x output.elem (Axis.kept input.rank axes) result
        else sum.call [x] = .error (.inTensor .overflow)) := by
  obtain ⟨reduced, denote, distinct, members⟩ := reducedAxes_ok input.rank axes inRange
  obtain ⟨reduction, compiled, returns, ends⟩ := reduce_sums_or_overflow axes input output addable
    inRange outputRank config valid bounded type rank
  have all := kept_eq_nil_iff input.rank axes reduced distinct members
  have lowered := compile_sum input output denote config
  by_cases everything : reduced.length = input.rank
  · have sums : SumsTo x output.elem (Axis.kept input.rank axes)
        ((SumShortcut.total (SumShortcut.sumType input.elem) output.elem output.elem).run x) := by
      rw [all.mpr everything, ← type]
      exact total_sums (type ▸ addable) valid bounded
    refine ⟨_, reduction, lowered.trans (if_pos everything), compiled, fun fits => ?_,
      fun tooLarge => ⟨(ends tooLarge).1, (ends tooLarge).2, ?_⟩⟩
    · obtain ⟨result, called, reductionSums⟩ := returns fits
      obtain rfl := sums.unique reductionSums
      exact ⟨_, rfl, called, sums⟩
    · rw [if_pos (all.mpr everything)]
      exact ⟨_, rfl, sums⟩
  · rw [if_neg everything] at lowered
    by_cases nothing : reduced.isEmpty = true
    · have none : ∀ axis < input.rank, ¬ Axis.Named input.rank axes axis := by
        intro axis below named
        have listed := (members axis).mpr ⟨below, named⟩
        simp [List.isEmpty_iff.mp nothing] at listed
      have fits : x.shape.ChainFits (Axis.highestFirst input.rank axes) := by
        rw [Axis.highestFirst_none none]
        trivial
      refine ⟨_, reduction, lowered.trans (if_pos nothing), compiled, fun _ => ?_,
        fun tooLarge => absurd fits tooLarge⟩
      obtain ⟨result, called, sums⟩ := returns fits
      obtain ⟨inputExact, exact⟩ := addable.exact
      obtain rfl := (copy_sums axes input.rank exact valid bounded (type ▸ inputExact) rank
        none).unique sums
      exact ⟨_, rfl, called, sums⟩
    · refine ⟨reduction, reduction, lowered.trans ((if_neg nothing).trans compiled), compiled,
        fun fits => ?_, fun tooLarge => ⟨(ends tooLarge).1, (ends tooLarge).2, ?_⟩⟩
      · obtain ⟨result, called, sums⟩ := returns fits
        exact ⟨result, called, called, sums⟩
      · rw [if_neg (all.not.mpr everything)]
        exact (ends tooLarge).2

/-- Bytes whose sum leaves both the unsigned and the signed range of a byte. -/
def fourBytes : Tensor := ⟨.u8, [2, 2], .unsigned #[200, 100, 50, 36]⟩

/-- Both nodes sum `fourBytes` over all axes, one of them named twice, to 386 - 512. Over all
    axes of the hollow array only the sum node has a result. -/
theorem sum_agrees_with_reduction_bytes :
    (∃ sum reduction,
      (⟨.sum (some [-1, 0, 1]) none, [.dynamic .u8 2], [.dynamic .i8 0]⟩ : Node).compile {} =
        .ok sum ∧
      (⟨.reduce (.prim .add) (some [-1, 0, 1]) none, [.dynamic .u8 2], [.dynamic .i8 0]⟩ :
        Node).compile {} = .ok reduction ∧
      sum.call [fourBytes] = .ok (.tensor ⟨.i8, [], .signed #[-126]⟩) ∧
      reduction.call [fourBytes] = .ok (.tensor ⟨.i8, [], .signed #[-126]⟩)) ∧
    ∃ sum reduction,
      (⟨.sum none none, [.dynamic .i64 3], [.dynamic .i8 0]⟩ : Node).compile {} = .ok sum ∧
      (⟨.reduce (.prim .add) none none, [.dynamic .i64 3], [.dynamic .i8 0]⟩ : Node).compile {} =
        .ok reduction ∧
      (∃ result, sum.call [.hollow] = .ok (.tensor result)) ∧
      reduction.call [.hollow] = .error (.inTensor .overflow) := by
  constructor
  · obtain ⟨sum, reduction, sumCompiled, reductionCompiled, agree, -⟩ :=
      sum_agrees_with_reduction (some [-1, 0, 1]) (.dynamic .u8 2) (.dynamic .i8 0)
        (.inl ⟨rfl, rfl⟩) (by unfold Axis.InRange; decide) (by decide) {} fourBytes (by decide)
        (by decide) rfl rfl
    obtain ⟨result, sumCalled, reductionCalled, -⟩ := agree (by decide)
    have ran : ((⟨.sum (some [-1, 0, 1]) none, [.dynamic .u8 2], [.dynamic .i8 0]⟩ :
        Node).compile {} >>= fun kernel => kernel.call [fourBytes]) =
          .ok (.tensor ⟨.i8, [], .signed #[-126]⟩) := by
      decide +kernel
    rw [sumCompiled, Outcome.bind_ok, sumCalled] at ran
    exact ⟨sum, reduction, sumCompiled, reductionCompiled, sumCalled.trans ran,
      reductionCalled.trans ran⟩
  · obtain ⟨sum, reduction, sumCompiled, reductionCompiled, -, differ⟩ :=
      sum_agrees_with_reduction none (.dynamic .i64 3) (.dynamic .i8 0) (.inl ⟨rfl, rfl⟩)
        (by unfold Axis.InRange; decide) (by decide) {} .hollow (by decide) (by decide) rfl rfl
    obtain ⟨-, ended, total⟩ := differ (by decide)
    rw [if_pos (by decide)] at total
    obtain ⟨result, called, -⟩ := total
    exact ⟨sum, reduction, sumCompiled, reductionCompiled, ⟨result, called⟩, ended⟩

end LoopKernels.Lowering
