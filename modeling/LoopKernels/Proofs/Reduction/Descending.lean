import LoopKernels.Proofs.Reduction.Accumulation
import LoopKernels.Proofs.Reduction.Joint

/-!
# Several axes as single axes in turn

A request names a set of axes. Whatever its spelling, it reduces each named axis once, and
it does so as a reducer of that axis alone would, the highest axis first. This is established
for every operator that accumulates, also where the order of the axes shows in the result.

A single number takes a way of its own through the builder: a reducer of one axis, in place of
a chain. The way makes no difference to the array. It does make one where a plain scalar is
asked for: a chain takes the element out of its last array, the reducer of one axis was built
without being asked to.

Every step forms the strides of the array it is given and counts the elements of the array it
gives. Where one of these is no word the step ends the run, in the chain as in the reducers taken
alone.
-/

namespace LoopKernels

/-- Axes reduced one after the other, each by a reducer built for it and for the array at hand. -/
def Tensor.reduceInTurn (op : Operator) (identity : Scalar) (elem : ElemType) :
    List Nat → Tensor → Except KernelError Tensor
  | [], t => .ok t
  | axis :: rest, t => do
    let reducer ← AxisReducer.build op identity axis t.rank elem false false
    let value ← reducer.reduce t false
    reduceInTurn op identity elem rest value.toTensor

/-- An array without axes has one element. -/
theorem Tensor.Valid.exists_item {t : Tensor} (valid : t.Valid) (shape : t.shape = []) :
    ∃ value, t.item = .ok value := by
  have one : t.toList.length = 1 := by
    rw [toList, Cells.length_toList, valid.2.1, shape]
    rfl
  obtain ⟨value, only⟩ := List.length_eq_one_iff.mp one
  exact ⟨value, by simp only [item, only]⟩

namespace AxisReducer

variable {op : Operator} {identity : Scalar} {elem : ElemType} {t : Tensor}

/-- The name of a reducer shows only where it refuses an array. -/
theorem reduce_renamed (r : AxisReducer) (name : String) (rank : t.rank = r.rank)
    (checked : Bool) : { r with name }.reduce t checked = r.reduce t checked := by
  rw [reduce, reduce, if_neg (not_not.mpr rank), if_neg (not_not.mpr rank)]
  rfl

/-- A built reducer that removes its axis gives an array without that axis, however it reads, if
    the strides and the count are words; otherwise it ends. -/
theorem build_reduces {axis : Int} {r : AxisReducer}
    (built : build op identity axis t.rank elem false false = .ok r) (valid : t.Valid) :
    (t.shape.ReduceFits r.axis →
      ∃ u, (∀ checked, r.reduce t checked = .ok (.tensor u)) ∧ u.Valid ∧
        u.shape = t.shape.eraseIdx r.axis) ∧
      (¬ t.shape.ReduceFits r.axis → ∀ checked,
        r.reduce t checked = .error (.inTensor .overflow)) := by
  obtain ⟨resolved, update, denotes, -, fields⟩ := (build_eq_ok _ _ _ _ _ _ _ _).mp built
  have rank : t.rank = r.rank := by rw [fields]
  have bound : r.axis < r.rank := by
    rw [fields]
    exact ((Axis.resolve_eq_ok _ _ _).mp denotes).1
  refine ⟨?_, fun tooLarge checked => r.reduce_overflow t checked rank bound tooLarge⟩
  intro fits
  obtain ⟨u, reduced, result⟩ := reduce_array valid false rank bound fits (by simp [Plain, fields])
  have removed : u.shape = t.shape.eraseIdx r.axis := by
    have shape := result.shape_eq
    simp only [fields] at shape ⊢
    exact shape
  refine ⟨u, ?_, result.valid, removed⟩
  intro checked
  cases checked with
  | false => exact reduced
  | true => rw [reduce_checked_eq valid bound, reduced]

end AxisReducer

namespace AxesReducer

variable {op : Operator} {elem : ElemType} {u : Update}

/-- From the highest axis down, each axis still exists when its turn comes. -/
theorem chain_builds (identity : Scalar) (accumulates : Update.ofOperator op elem = .ok u)
    (axes : List Nat) (number rank : Nat) (descends : axes.Pairwise (· > ·))
    (bounds : ∀ axis ∈ axes, axis < rank) :
    ∃ reducers, chain op identity elem number rank axes = .ok reducers := by
  induction axes generalizing number rank with
  | nil => exact ⟨[], rfl⟩
  | cons axis rest inductionHypothesis =>
    rw [List.pairwise_cons] at descends
    rw [List.forall_mem_cons] at bounds
    have below : ∀ later ∈ rest, later < rank - 1 := by
      intro later listed
      have := descends.1 later listed
      omega
    obtain ⟨others, built⟩ := inductionHypothesis (number + 1) (rank - 1) descends.2 below
    have first := (AxisReducer.build_eq_ok op identity axis rank elem false false _).mpr
      ⟨axis, u, Axis.resolve_natCast rank axis bounds.1, accumulates, rfl⟩
    simp only [chain, first, built, Outcome.bind_ok, Outcome.pure_ok, Except.ok.injEq, exists_eq']

/-- A chain does what its axes do in turn, and comes to an end while the strides and counts on the
    way are words.

    Induction on the axes. A step of the chain is the reducer of its axis under another name, and
    the array it leaves has the rank for which the rest of the chain was built. -/
theorem runSteps_chain {identity : Scalar} (config : Config) (axes : List Nat) (number : Nat)
    (t : Tensor) (reducers : List AxisReducer)
    (built : chain op identity elem number t.rank axes = .ok reducers) (valid : t.Valid) :
    runSteps (reducers.map (·.stepKernel config)) t = t.reduceInTurn op identity elem axes ∧
      (t.shape.ChainFits axes →
        ∃ result, t.reduceInTurn op identity elem axes = .ok result ∧ result.Valid ∧
          result.shape = eraseAxes axes t.shape) ∧
      (¬ t.shape.ChainFits axes →
        t.reduceInTurn op identity elem axes = .error (.inTensor .overflow)) := by
  induction axes generalizing number t reducers with
  | nil =>
    obtain rfl := Except.ok.inj built
    exact ⟨rfl, fun _ => ⟨t, rfl, valid, rfl⟩, fun tooLarge => absurd trivial tooLarge⟩
  | cons axis rest inductionHypothesis =>
    simp only [chain, Outcome.bind_eq_ok] at built
    obtain ⟨first, firstBuilt, others, othersBuilt, same⟩ := built
    obtain rfl := Except.ok.inj same
    obtain ⟨resolved, update, denotes, -, fields⟩ :=
      (AxisReducer.build_eq_ok _ _ _ _ _ _ _ _).mp firstBuilt
    obtain ⟨bound, spelled⟩ := (Axis.resolve_eq_ok _ _ _).mp denotes
    have own : first.axis = axis ∧ first.rank = t.rank := by
      rw [fields]
      constructor
      · show resolved = axis
        omega
      · rfl
    obtain ⟨reduces, ends⟩ := AxisReducer.build_reduces firstBuilt valid
    rw [own.1] at reduces ends
    have step := first.reduce_renamed ("careduce_axes_fn_" ++ toString number) own.2.symm false
    rw [List.map_cons, runSteps, AxisReducer.stepKernel_call, step, Tensor.reduceInTurn, firstBuilt,
      Outcome.bind_ok]
    by_cases fits : t.shape.ReduceFits axis
    · obtain ⟨between, reduced, betweenValid, shape⟩ := reduces fits
      have shorter : between.rank = t.rank - 1 := by
        have inShape : axis < t.shape.length := by
          show axis < t.rank
          omega
        rw [Tensor.rank, shape, List.length_eraseIdx_of_lt inShape, Tensor.rank]
      obtain ⟨ran, found, ended⟩ :=
        inductionHypothesis (number + 1) between others (shorter ▸ othersBuilt) betweenValid
      rw [shape] at found ended
      rw [reduced, Outcome.bind_ok, Outcome.bind_ok]
      exact ⟨ran, fun chain => found chain.2,
        fun tooLarge => ended fun later => tooLarge ⟨fits, later⟩⟩
    · rw [ends fits false]
      exact ⟨rfl, fun chain => absurd chain.1 fits, fun _ => rfl⟩

/-- Axes from the highest down are reduced in turn exactly while the strides and counts on the way
    are words. -/
theorem reduceInTurn_outcome (identity : Scalar) (accumulates : Update.ofOperator op elem = .ok u)
    (axes : List Nat) (t : Tensor) (valid : t.Valid) (descends : axes.Pairwise (· > ·))
    (bounds : ∀ axis ∈ axes, axis < t.rank) :
    (t.shape.ChainFits axes →
        ∃ result, t.reduceInTurn op identity elem axes = .ok result ∧ result.Valid ∧
          result.shape = eraseAxes axes t.shape) ∧
      (¬ t.shape.ChainFits axes →
        t.reduceInTurn op identity elem axes = .error (.inTensor .overflow)) := by
  obtain ⟨reducers, built⟩ := chain_builds identity accumulates axes 0 t.rank descends bounds
  exact (runSteps_chain {} axes 0 t reducers built valid).2

end AxesReducer

namespace Reducer

variable {op : Operator} {elem : ElemType} {u : Update}

/-- On every array of its rank the reducer reduces the named axes in turn, and then gives the
    array, or its only element where it gives a plain scalar. -/
def ReducesInTurn (reducer : Reducer) (op : Operator) (identity : Scalar) (elem : ElemType)
    (rank : Nat) (numbers : List Int) (plain : Bool) : Prop :=
  ∀ (options : Options) (t : Tensor), t.Valid → t.rank = rank →
    reducer.definition.run options [t] = do
      let result ← t.reduceInTurn op identity elem (Axis.highestFirst rank (some numbers))
      if plain then do
        let value ← KernelError.ofTensor result.item
        pure (.scalar value result.elem)
      else pure (.tensor result)

/-- One number is given to a reducer of its axis, which gives an array. -/
theorem build_single_in_turn (identity : Scalar) (accumulates : Update.ofOperator op elem = .ok u)
    (rank : Nat) (number : Int) (resolved : List Nat)
    (denote : Axis.resolveAll rank [number] = .ok resolved) (distinct : resolved.Nodup)
    (members : ∀ axis, axis ∈ resolved ↔ axis < rank ∧ Axis.Named rank (some [number]) axis)
    (inputName : String) (returnScalar : Bool) (config : Config) :
    ∃ reducer, build op identity [number] rank elem inputName returnScalar config = .ok reducer ∧
      reducer.ReducesInTurn op identity elem rank [number] false := by
  have order := AxesReducer.descending_eq_highestFirst rank _ resolved distinct members
  obtain ⟨axis, denotes, rfl⟩ := Axis.resolveAll_singleton rank number resolved denote
  rw [AxesReducer.descending_singleton] at order
  have bound : axis < rank := ((Axis.resolve_eq_ok _ _ _).mp denotes).1
  let reducer : AxisReducer := ⟨"careduce_" ++ op.name ++ "_axis" ++ toString axis, op.name, u,
    identity.seed elem, axis, rank, elem, false, false⟩
  have built : AxisReducer.build op identity number rank elem false false = .ok reducer :=
    (AxisReducer.build_eq_ok _ _ _ _ _ _ _ _).mpr ⟨axis, u, denotes, accumulates, rfl⟩
  have again : AxisReducer.build op identity axis rank elem false false = .ok reducer :=
    (AxisReducer.build_eq_ok _ _ _ _ _ _ _ _).mpr
      ⟨axis, u, Axis.resolve_natCast rank axis bound, accumulates, rfl⟩
  refine ⟨.axis reducer, by rw [build, built]; rfl, ?_⟩
  rintro options t valid rfl
  have run : (definition (.axis reducer)).run options [t] = reducer.reduce t options.boundscheck :=
    rfl
  obtain ⟨reduces, ends⟩ := AxisReducer.build_reduces built valid
  rw [run, ← order, Tensor.reduceInTurn, again, Outcome.bind_ok]
  by_cases fits : t.shape.ReduceFits axis
  · obtain ⟨result, reduced, -⟩ := reduces fits
    rw [reduced, reduced]
    rfl
  · rw [ends fits, ends fits]
    rfl

/-- Any other list of numbers is given to a chain, which gives a plain scalar where one is asked
    for. -/
theorem build_chain_in_turn (identity : Scalar) (accumulates : Update.ofOperator op elem = .ok u)
    (rank : Nat) (numbers : List Int) (several : ¬ ∃ number, numbers = [number])
    (resolved : List Nat) (denote : Axis.resolveAll rank numbers = .ok resolved)
    (distinct : resolved.Nodup)
    (members : ∀ axis, axis ∈ resolved ↔ axis < rank ∧ Axis.Named rank (some numbers) axis)
    (inputName : String) (returnScalar : Bool) (config : Config) :
    ∃ reducer, build op identity numbers rank elem inputName returnScalar config = .ok reducer ∧
      reducer.ReducesInTurn op identity elem rank numbers returnScalar := by
  have order := AxesReducer.descending_eq_highestFirst rank _ resolved distinct members
  have bounds : ∀ axis ∈ AxesReducer.descending resolved, axis < rank := by
    intro axis listed
    exact ((members axis).mp ((AxesReducer.mem_descending resolved axis).mp listed)).1
  obtain ⟨reducers, chained⟩ := AxesReducer.chain_builds identity accumulates _ 0 rank
    (AxesReducer.pairwise_descending distinct) bounds
  let reducer : AxesReducer := ⟨"careduce_" ++ op.name, inputName,
    AxesReducer.descending resolved, reducers.map (·.stepKernel config), returnScalar⟩
  refine ⟨.axes reducer, ?_, ?_⟩
  · rw [build_several op identity numbers rank elem inputName returnScalar config several]
    simp [AxesReducer.build, denote, KernelError.ofAxis, accumulates, chained, reducer]
  · rintro options t valid rfl
    have run : (definition (.axes reducer)).run options [t] = reducer.reduce t := rfl
    rw [run, AxesReducer.reduce, (AxesReducer.runSteps_chain config _ 0 t reducers chained valid).1,
      order]

/-- Every request is built and reduces its axes in turn. It gives a plain scalar where one is asked
    for by more or fewer numbers than one. -/
theorem build_reduces_in_turn (identity : Scalar) (accumulates : Update.ofOperator op elem = .ok u)
    (rank : Nat) (numbers : List Int) (inRange : Axis.InRange rank (some numbers))
    (inputName : String) (returnScalar : Bool) (config : Config) :
    ∃ reducer, build op identity numbers rank elem inputName returnScalar config = .ok reducer ∧
      reducer.ReducesInTurn op identity elem rank numbers
        (returnScalar && numbers.length != 1) := by
  obtain ⟨resolved, denote, distinct, members⟩ := Axis.resolveAll_ok rank (some numbers) inRange
  by_cases single : ∃ number, numbers = [number]
  · obtain ⟨number, rfl⟩ := single
    have flag : (returnScalar && [number].length != 1) = false := Bool.and_false returnScalar
    rw [flag]
    exact build_single_in_turn identity accumulates rank number resolved denote distinct members
      inputName returnScalar config
  · have plural : (returnScalar && numbers.length != 1) = returnScalar := by
      have apart : numbers.length ≠ 1 := fun one => single (List.length_eq_one_iff.mp one)
      simp [apart]
    rw [plural]
    exact build_chain_in_turn identity accumulates rank numbers single resolved denote distinct
      members inputName returnScalar config

/-- A request for an array is always built. On an array of its rank it does what the reducers of the
    named axes do, each alone and the highest axis first; without axes it gives the array itself. It
    fails exactly where a stride or a count on the way is no word, which takes an empty axis.
    Another request that names the same axes does the same. -/
theorem several_axes_in_turn (op : Operator) (identity : Scalar) (elem : ElemType) (u : Update)
    (accumulates : Update.ofOperator op elem = .ok u) (rank : Nat) (numbers : List Int)
    (inRange : Axis.InRange rank (some numbers)) (inputName : String) (config : Config) :
    ∃ reducer, build op identity numbers rank elem inputName false config = .ok reducer ∧
      ∀ (options : Options) (t : Tensor), t.Valid → t.rank = rank →
        reducer.definition.run options [t] =
          (t.reduceInTurn op identity elem (Axis.highestFirst rank (some numbers))).map .tensor ∧
        ((∃ result, reducer.definition.run options [t] = .ok (.tensor result)) ↔
          t.shape.ChainFits (Axis.highestFirst rank (some numbers))) ∧
        (¬ t.shape.ChainFits (Axis.highestFirst rank (some numbers)) →
          reducer.definition.run options [t] = .error (.inTensor .overflow)) ∧
        (0 ∉ t.shape → t.shape.ChainFits (Axis.highestFirst rank (some numbers))) ∧
        (numbers = [] → reducer.definition.run options [t] = .ok (.tensor t)) ∧
        ∀ (spelling : List Int), Axis.InRange rank (some spelling) →
          (∀ axis, axis < rank →
            (Axis.Named rank (some spelling) axis ↔ Axis.Named rank (some numbers) axis)) →
          ∀ (otherName : String) (otherConfig : Config), ∃ other,
            build op identity spelling rank elem otherName false otherConfig = .ok other ∧
            ∀ otherOptions,
              other.definition.run otherOptions [t] = reducer.definition.run options [t] := by
  obtain ⟨reducer, built, runs⟩ :=
    build_reduces_in_turn identity accumulates rank numbers inRange inputName false config
  refine ⟨reducer, built, ?_⟩
  intro options t valid sameRank
  have ran : reducer.definition.run options [t] =
      (t.reduceInTurn op identity elem (Axis.highestFirst rank (some numbers))).map .tensor := by
    rw [runs options t valid sameRank]
    cases t.reduceInTurn op identity elem (Axis.highestFirst rank (some numbers)) <;> rfl
  obtain ⟨found, ended⟩ := AxesReducer.reduceInTurn_outcome identity accumulates
    (Axis.highestFirst rank (some numbers)) t valid (Axis.pairwise_highestFirst rank _)
    fun axis listed => sameRank ▸ ((Axis.mem_highestFirst rank _ axis).mp listed).1
  refine ⟨ran, ?_, ?_, fun full => Shape.chainFits_of_full _ full valid.2.2, ?_, ?_⟩
  · rw [ran]
    by_cases fits : t.shape.ChainFits (Axis.highestFirst rank (some numbers))
    · obtain ⟨result, inTurn, -⟩ := found fits
      simp [fits, inTurn, Except.map]
    · simp [fits, ended fits, Except.map]
  · intro tooLarge
    rw [ran, ended tooLarge]
    rfl
  · rintro rfl
    have none : Axis.highestFirst rank (some []) = [] := by simp [Axis.highestFirst, Axis.Named]
    rw [ran, none]
    rfl
  · intro spelling spellingInRange same otherName otherConfig
    have order : Axis.highestFirst rank (some spelling) =
        Axis.highestFirst rank (some numbers) := by
      refine congrArg List.reverse (List.filter_congr ?_)
      intro axis below
      simpa using same axis (List.mem_range.mp below)
    obtain ⟨other, otherBuilt, otherRuns⟩ := build_reduces_in_turn identity accumulates rank
      spelling spellingInRange otherName false otherConfig
    refine ⟨other, otherBuilt, ?_⟩
    intro otherOptions
    rw [otherRuns otherOptions t valid sameRank, runs options t valid sameRank, order]
    rfl

/-- Two rows of integers whose means do not come out even. -/
def unevenRows : Tensor := ⟨.i64, [2, 3], .signed #[1, 8, 3, 10, 2, 7]⟩

/-- Truncated means show which axis is reduced first: the last axis, named twice and once from the
    end, and then the first. The other order would give another mean. An array without elements
    keeps its axes when none is named, and is refused the reduction of one when its strides leave
    the word. -/
theorem several_axes_in_turn_means :
    Axis.InRange 2 (some [0, -1, 1]) ∧
    (∃ reducer, build (.prim .mean) (.float 0) [0, -1, 1] 2 .i64 "x" false {} = .ok reducer ∧
      reducer.definition.run {} [unevenRows] = .ok (.tensor ⟨.i64, [], .signed #[4]⟩)) ∧
    unevenRows.reduceInTurn (.prim .mean) (.float 0) .i64 [1, 0] =
      .ok ⟨.i64, [], .signed #[4]⟩ ∧
    unevenRows.reduceInTurn (.prim .mean) (.float 0) .i64 [0, 0] =
      .ok ⟨.i64, [], .signed #[5]⟩ ∧
    (∃ reducer, build (.prim .mean) (.float 0) [] 3 .i64 "x" false {} = .ok reducer ∧
      reducer.definition.run {} [.hollow] = .ok (.tensor .hollow)) ∧
    ∃ reducer, build (.prim .mean) (.float 0) [1] 3 .i64 "x" false {} = .ok reducer ∧
      reducer.definition.run {} [.hollow] = .error (.inTensor .overflow) := by
  have inRange : Axis.InRange 2 (some [0, -1, 1]) := by simp [Axis.InRange]
  have highest : unevenRows.reduceInTurn (.prim .mean) (.float 0) .i64 [1, 0] =
      .ok ⟨.i64, [], .signed #[4]⟩ := by decide +kernel
  have lowest : unevenRows.reduceInTurn (.prim .mean) (.float 0) .i64 [0, 0] =
      .ok ⟨.i64, [], .signed #[5]⟩ := by decide +kernel
  have order : Axis.highestFirst 2 (some [0, -1, 1]) = [1, 0] := by decide
  refine ⟨inRange, ?_, highest, lowest, ?_, ?_⟩
  · obtain ⟨reducer, built, runs⟩ := several_axes_in_turn (.prim .mean) (.float 0) .i64 .mean rfl 2
      [0, -1, 1] inRange "x" {}
    obtain ⟨ran, -⟩ := runs {} unevenRows (by decide) rfl
    rw [order, highest] at ran
    exact ⟨reducer, built, ran⟩
  · obtain ⟨reducer, built, runs⟩ := several_axes_in_turn (.prim .mean) (.float 0) .i64 .mean rfl 3
      [] (by simp [Axis.InRange]) "x" {}
    obtain ⟨-, -, -, -, unchanged, -⟩ := runs {} .hollow (by decide) rfl
    exact ⟨reducer, built, unchanged rfl⟩
  · obtain ⟨reducer, built, runs⟩ := several_axes_in_turn (.prim .mean) (.float 0) .i64 .mean rfl 3
      [1] (by simp [Axis.InRange]) "x" {}
    obtain ⟨-, -, ends, -⟩ := runs {} .hollow (by decide) rfl
    exact ⟨reducer, built, ends (by decide)⟩

/-- A request for a plain scalar that names every axis is built like the one for an array, which
    gives an array without axes. It gives the element of that array as a plain scalar exactly when
    it is not spelled by one number; spelled by one number it gives the array. Both fail where a
    stride or a count on the way is no word. -/
theorem plain_scalar_iff (op : Operator) (identity : Scalar) (elem : ElemType) (u : Update)
    (accumulates : Update.ofOperator op elem = .ok u) (rank : Nat) (numbers : List Int)
    (inRange : Axis.InRange rank (some numbers))
    (full : ∀ axis, axis < rank → Axis.Named rank (some numbers) axis) (inputName : String)
    (config : Config) :
    ∃ plain array, build op identity numbers rank elem inputName true config = .ok plain ∧
      build op identity numbers rank elem inputName false config = .ok array ∧
      ∀ (options : Options) (t : Tensor), t.Valid → t.rank = rank →
        (t.shape.ChainFits (Axis.highestFirst rank (some numbers)) →
          ∃ result value, array.definition.run options [t] = .ok (.tensor result) ∧
            result.shape = [] ∧ result.item = .ok value ∧
            (plain.definition.run options [t] = .ok (.scalar value result.elem) ↔
              numbers.length ≠ 1) ∧
            (numbers.length = 1 → plain.definition.run options [t] = .ok (.tensor result))) ∧
        (¬ t.shape.ChainFits (Axis.highestFirst rank (some numbers)) →
          array.definition.run options [t] = .error (.inTensor .overflow) ∧
            plain.definition.run options [t] = .error (.inTensor .overflow)) ∧
        (0 ∉ t.shape → t.shape.ChainFits (Axis.highestFirst rank (some numbers))) := by
  obtain ⟨plain, plainBuilt, plainRuns⟩ :=
    build_reduces_in_turn identity accumulates rank numbers inRange inputName true config
  obtain ⟨array, arrayBuilt, arrayRuns⟩ :=
    build_reduces_in_turn identity accumulates rank numbers inRange inputName false config
  refine ⟨plain, array, plainBuilt, arrayBuilt, ?_⟩
  intro options t valid sameRank
  have arrayRan := arrayRuns options t valid sameRank
  have plainRan := plainRuns options t valid sameRank
  obtain ⟨found, ended⟩ := AxesReducer.reduceInTurn_outcome identity accumulates
    (Axis.highestFirst rank (some numbers)) t valid (Axis.pairwise_highestFirst rank _)
    fun axis listed => sameRank ▸ ((Axis.mem_highestFirst rank _ axis).mp listed).1
  refine ⟨?_, ?_, fun full => Shape.chainFits_of_full _ full valid.2.2⟩
  · intro fits
    obtain ⟨result, inTurn, resultValid, shape⟩ := found fits
    rw [inTurn, Outcome.bind_ok] at arrayRan plainRan
    have none : Axis.kept rank (some numbers) = [] := by
      refine List.filter_eq_nil_iff.mpr ?_
      intro axis below
      simpa using full axis (List.mem_range.mp below)
    rw [eraseAxes_highestFirst rank _ t.shape sameRank, none] at shape
    obtain ⟨value, only⟩ := resultValid.exists_item shape
    refine ⟨result, value, by simpa using arrayRan, shape, only, ?_, ?_⟩
    · rw [plainRan]
      by_cases one : numbers.length = 1 <;> simp [one, only]
    · intro one
      rw [plainRan, if_neg (by simp [one])]
      rfl
  · intro tooLarge
    rw [ended tooLarge] at arrayRan plainRan
    exact ⟨arrayRan, plainRan⟩

/-- Three integers. -/
def shortVector : Tensor := ⟨.i64, [3], .signed #[1, 2, 3]⟩

/-- One axis named by one number stays an array, though a plain scalar is asked for. Named twice,
    it gives the plain scalar. -/
theorem plain_scalar_iff_vector :
    (∀ axis, axis < 1 → Axis.Named 1 (some [0]) axis) ∧
    (∃ reducer, build (.prim .add) (.int 0) [0] 1 .i64 "x" true {} = .ok reducer ∧
      reducer.definition.run {} [shortVector] = .ok (.tensor ⟨.i64, [], .signed #[6]⟩)) ∧
    (∀ axis, axis < 1 → Axis.Named 1 (some [0, -1]) axis) ∧
    ∃ reducer, build (.prim .add) (.int 0) [0, -1] 1 .i64 "x" true {} = .ok reducer ∧
      reducer.definition.run {} [shortVector] = .ok (.scalar (.int 6) .i64) := by
  have once : ∀ axis, axis < 1 → Axis.Named 1 (some [0]) axis := by decide
  have twice : ∀ axis, axis < 1 → Axis.Named 1 (some [0, -1]) axis := by decide
  refine ⟨once, ?_, twice, ?_⟩
  · obtain ⟨plain, array, built, arrayBuilt, runs⟩ := plain_scalar_iff (.prim .add) (.int 0) .i64
      .add rfl 1 [0] (by simp [Axis.InRange]) once "x" {}
    obtain ⟨result, value, ran, -, -, -, kept⟩ :=
      (runs {} shortVector (by decide) rfl).1 (by decide)
    have sum : (build (.prim .add) (.int 0) [0] 1 .i64 "x" false {} >>=
        fun reducer => reducer.definition.run {} [shortVector]) =
        .ok (.tensor ⟨.i64, [], .signed #[6]⟩) := by decide +kernel
    rw [arrayBuilt, Outcome.bind_ok, ran] at sum
    exact ⟨plain, built, sum ▸ kept rfl⟩
  · obtain ⟨plain, array, built, arrayBuilt, runs⟩ := plain_scalar_iff (.prim .add) (.int 0) .i64
      .add rfl 1 [0, -1] (by simp [Axis.InRange]) twice "x" {}
    obtain ⟨result, value, ran, -, only, scalar, -⟩ :=
      (runs {} shortVector (by decide) rfl).1 (by decide)
    have sum : (build (.prim .add) (.int 0) [0, -1] 1 .i64 "x" false {} >>=
        fun reducer => reducer.definition.run {} [shortVector]) =
        .ok (.tensor ⟨.i64, [], .signed #[6]⟩) := by decide +kernel
    rw [arrayBuilt, Outcome.bind_ok, ran] at sum
    obtain rfl : result = ⟨.i64, [], .signed #[6]⟩ := by simpa using sum
    obtain rfl : Scalar.int 6 = value := Except.ok.inj only
    exact ⟨plain, built, scalar.mpr (by decide)⟩

end Reducer

end LoopKernels
