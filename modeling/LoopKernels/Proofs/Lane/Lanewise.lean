import LoopKernels.Proofs.Lane.Apply

/-!
# Functions along an axis, lane by lane

What a function applied along an axis is called on, and what comes of it. The lanes are those of
the array itself, one for each coordinate of the other axes, in row-major order. Calls are made
in that order and end with the first failure, which is then the result; otherwise each coordinate
holds the scalar of its lane, cast to the element type. Where the other axes have no coordinate
there is no call. An array whose strides are no words, or whose other axes cannot be counted, has
no elements; yet it is refused unless its lanes lie side by side as it is.

Calls are made visible by running the same application in a monad that notes each lane before it
is handed on. Noting changes nothing about the result.
-/

namespace LoopKernels

/-! ## Calls that are noted -/

/-- A computation that may fail and notes what it calls a function on. -/
abbrev Noting (ε α : Type) := ExceptT ε (StateM (List α))

namespace Noting

variable {ε α β γ ι : Type}

/-- The outcome, and the calls noted behind those before. -/
def outcome (x : Noting ε α β) (calls : List α) : Except ε β × List α := x.run.run calls

/-- A call is noted, whether or not it fails. -/
def call (f : α → Except ε β) (x : α) : Noting ε α β := do
  modify (· ++ [x])
  liftM (f x)

/-- The entries of a list up to the first on which a function fails, that one included. -/
def untilFailure (f : α → Except ε β) : List α → List α
  | [] => []
  | x :: xs => match f x with
    | .ok _ => x :: untilFailure f xs
    | .error _ => [x]

/-- A call gives the outcome of the function and is noted behind the earlier calls. -/
@[simp] theorem outcome_call (f : α → Except ε β) (x : α) (calls : List α) :
    (call f x).outcome calls = (f x, calls ++ [x]) := rfl

/-- A plain value notes nothing. -/
@[simp] theorem outcome_pure (b : β) (calls : List α) :
    (pure b : Noting ε α β).outcome calls = (.ok b, calls) := rfl

/-- A computation that calls no function notes nothing. -/
@[simp] theorem outcome_lift (x : Except ε β) (calls : List α) :
    (liftM x : Noting ε α β).outcome calls = (x, calls) := rfl

/-- A step after a value goes on with the calls of both. -/
theorem outcome_bind_ok (x : Noting ε α β) (next : β → Noting ε α γ) (calls later : List α) (b : β)
    (first : x.outcome calls = (.ok b, later)) :
    (x >>= next).outcome calls = (next b).outcome later := by
  rw [outcome] at first
  rw [outcome, ExceptT.run_bind, StateT.run_bind, first]
  rfl

/-- After a failure nothing is called. -/
theorem outcome_bind_error (x : Noting ε α β) (next : β → Noting ε α γ) (calls later : List α)
    (e : ε) (first : x.outcome calls = (.error e, later)) :
    (x >>= next).outcome calls = (.error e, later) := by
  rw [outcome] at first
  rw [outcome, ExceptT.run_bind, StateT.run_bind, first]
  rfl

/-- Calls on the entries of a list are noted up to the first failure. -/
theorem outcome_mapM_call (f : α → Except ε β) (xs calls : List α) :
    (xs.mapM (call f)).outcome calls = (xs.mapM f, calls ++ untilFailure f xs) := by
  induction xs generalizing calls with
  | nil => simp [untilFailure]
  | cons x xs inductionHypothesis =>
    rw [List.mapM_cons, List.mapM_cons]
    cases first : f x with
    | error e =>
      rw [outcome_bind_error _ _ _ _ e (by rw [outcome_call, first])]
      simp [untilFailure, first]
    | ok b =>
      rw [outcome_bind_ok _ _ _ _ b (by rw [outcome_call, first])]
      have rest := inductionHypothesis (calls ++ [x])
      cases others : xs.mapM f with
      | error e =>
        rw [others] at rest
        rw [outcome_bind_error _ _ _ _ e rest]
        simp [untilFailure, first]
      | ok bs =>
        rw [others] at rest
        rw [outcome_bind_ok _ _ _ _ bs rest]
        simp [untilFailure, first]

/-- Without its calls, a computation with calls noted is one that may fail. -/
def Erases (x : Noting ε α β) (y : Except ε β) : Prop := ∀ calls, (x.outcome calls).1 = y

/-- What notes nothing erases to itself. -/
theorem erases_lift (x : Except ε β) : (liftM x : Noting ε α β).Erases x := fun _ => rfl

/-- A noted call erases to the call. -/
theorem erases_call (f : α → Except ε β) (x : α) : (call f x).Erases (f x) := fun _ => rfl

/-- Chains are erased step by step. -/
theorem Erases.bind {x : Noting ε α β} {y : Except ε β} {next : β → Noting ε α γ}
    {following : β → Except ε γ} (first : x.Erases y)
    (second : ∀ b, (next b).Erases (following b)) : (x >>= next).Erases (y >>= following) := by
  intro calls
  have here := first calls
  cases run : x.outcome calls with
  | mk result later =>
    rw [run] at here
    subst here
    cases result with
    | error e => rw [outcome_bind_error x next calls later e run, Outcome.bind_error]
    | ok b =>
      rw [outcome_bind_ok x next calls later b run, Outcome.bind_ok]
      exact second b later

/-- So are computations on the entries of a list. -/
theorem Erases.mapM {f : ι → Noting ε α β} {g : ι → Except ε β} (each : ∀ i, (f i).Erases (g i))
    (xs : List ι) : (xs.mapM f).Erases (xs.mapM g) := by
  induction xs with
  | nil => exact erases_lift (.ok [])
  | cons x xs inductionHypothesis =>
    rw [List.mapM_cons, List.mapM_cons]
    exact (each x).bind fun b => inductionHypothesis.bind fun bs => erases_lift (.ok (b :: bs))

/-- What may fail at the end makes no calls. -/
theorem outcome_bind_lift (x : Noting ε α β) (last : β → Except ε γ) (calls : List α) :
    ((x >>= fun b => liftM (last b)).outcome calls).2 = (x.outcome calls).2 := by
  cases run : x.outcome calls with
  | mk result later =>
    cases result with
    | error e => rw [outcome_bind_error x _ calls later e run]
    | ok b => rw [outcome_bind_ok x _ calls later b run, outcome_lift]

end Noting

namespace AxisApply

/-- The application with its calls noted. -/
def noted (a : AxisApply) (t : Tensor) : Noting KernelError Tensor Tensor :=
  a.applyWith (Noting.call a.function) t

variable {a : AxisApply} {t : Tensor}

/-- Noting the calls changes nothing about the result, whatever the array. -/
theorem noted_erases (a : AxisApply) (t : Tensor) : (a.noted t).Erases (a.apply t) := by
  unfold noted apply applyWith
  by_cases differs : t.rank ≠ a.rank
  · rw [if_pos differs, if_pos differs]
    exact fun _ => rfl
  · rw [if_neg differs, if_neg differs]
    refine (Noting.erases_lift _).bind fun moved => ?_
    refine (Noting.erases_lift _).bind fun count => ?_
    refine (Noting.Erases.mapM (fun m => ?_) _).bind fun values => Noting.erases_lift _
    exact (Noting.erases_lift _).bind fun lane => Noting.erases_call _ lane

/-- The lanes of an array along an axis, in row-major order of the other coordinates. -/
def lanes (t : Tensor) (axis : Nat) : List Tensor :=
  (Shape.coordinates (t.shape.eraseIdx axis)).map (t.laneAlong axis)

/-- The function is called on the lanes of the array, up to the first on which it fails. -/
theorem outcome_noted (valid : t.Valid) (sameRank : t.rank = a.rank) (bound : a.axis < a.rank)
    (fits : t.shape.LaneFits a.axis) (calls : List Tensor) :
    (a.noted t).outcome calls =
      (a.apply t, calls ++ Noting.untilFailure a.function (lanes t a.axis)) := by
  refine Prod.ext (noted_erases a t calls) ?_
  have called := Noting.outcome_mapM_call a.function (lanes t a.axis) calls
  rw [lanes, List.mapM_map] at called
  rw [noted, applyWith_eq _ valid sameRank bound fits, Noting.outcome_bind_lift]
  exact congrArg Prod.snd called

/-- A run that overflows calls nothing. -/
theorem outcome_noted_overflow (valid : t.Valid) (sameRank : t.rank = a.rank)
    (bound : a.axis < a.rank) (tooLarge : ¬ t.shape.LaneFits a.axis) (calls : List Tensor) :
    (a.noted t).outcome calls = (.error (.inTensor .overflow), calls) := by
  rw [noted, applyWith_overflow _ valid sameRank bound tooLarge]
  rfl

/-! ## The result -/

/-- An array with one axis that holds the elements along an axis of another, at a coordinate of
    the other axes, in increasing order. -/
structure IsLane (t : Tensor) (axis : Nat) (rest : Coord) (lane : Tensor) : Prop where
  valid : lane.Valid
  elem_eq : lane.elem = t.elem
  shape_eq : lane.shape = [t.shape.getD axis 0]
  get_eq : ∀ index < t.shape.getD axis 0, lane.get [index] = t.get (rest.insertIdx axis index)

/-- The lane along an axis has the entries that differ on that axis only. -/
theorem isLane_laneAlong (valid : t.Valid) (axis : Nat) (bound : axis < t.rank) (rest : Coord)
    (inside : Shape.contains (t.shape.eraseIdx axis) rest = true) :
    IsLane t axis rest (t.laneAlong axis rest) := by
  have represents := valid.laneAlong_represents axis bound rest inside
  refine ⟨represents.valid, rfl, rfl, ?_⟩
  intro index below
  have there := Shape.contains_insert t.shape axis index rest bound below inside
  rw [represents.get_eq [index] (by simpa using below), valid.represents.get_eq _ there]
  rfl

/-- What comes of a function applied along an axis, and of the calls made for it. -/
structure Lanewise (function : LaneFunction) (axis : Nat) (elem : ElemType) (t : Tensor)
    (result : Except KernelError Tensor) (calls : List Tensor) : Prop where
  /-- The lanes are met in order, until the function fails. -/
  calls_eq : calls = Noting.untilFailure function (lanes t axis)
  /-- The first failure is the result. -/
  first_error : ∀ before lane after e, lanes t axis = before ++ lane :: after →
    (∀ earlier ∈ before, ∃ scalar, function earlier = .ok scalar) → function lane = .error e →
      result = .error e
  /-- Without failure, each coordinate of the other axes holds the scalar of its lane, cast. -/
  each_element : ∀ scalar : Coord → Scalar,
    (∀ rest, Shape.contains (t.shape.eraseIdx axis) rest = true →
      function (t.laneAlong axis rest) = .ok (scalar rest)) →
    ∃ u, result = .ok u ∧ u.Valid ∧ u.elem = elem ∧ u.shape = t.shape.eraseIdx axis ∧
      ∀ rest, Shape.contains (t.shape.eraseIdx axis) rest = true →
        u.get rest = .ok ((scalar rest).cast elem)

/-- Applying to all lanes calls the function once for each lane in order, up to the first
    failure. -/
theorem apply_lanewise (valid : t.Valid) (sameRank : t.rank = a.rank) (bound : a.axis < a.rank)
    (fits : t.shape.LaneFits a.axis) :
    Lanewise a.function a.axis a.elem t (a.apply t)
      (Noting.untilFailure a.function (lanes t a.axis)) := by
  have result := apply_eq valid sameRank bound fits
  refine ⟨rfl, ?_, ?_⟩
  · intro before lane after e split earlier failed
    have first := Outcome.mapM_first_error a.function before after lane e earlier failed
    rw [← split, lanes, List.mapM_map] at first
    rw [result]
    exact congrArg (Except.map _) first
  · intro scalar each
    have values : ((Shape.coordinates (t.shape.eraseIdx a.axis)).mapM fun rest =>
        a.function (t.laneAlong a.axis rest)) =
        .ok ((Shape.coordinates (t.shape.eraseIdx a.axis)).map scalar) := by
      refine Outcome.mapM_ok _ _ _ ?_
      intro rest listed
      exact each rest ((Shape.mem_coordinates _ rest).mp listed)
    have represents := Tensor.withScalars_represents a.elem (t.shape.eraseIdx a.axis) scalar
      fits.2.count_lt
    rw [result, values]
    exact ⟨_, rfl, represents.valid, rfl, rfl, represents.get_eq⟩

/-- An axis is named by its number, or by its number less the rank. -/
theorem build_ok (functionName : String) (function : LaneFunction) (number : Int) (rank : Nat)
    (elem : ElemType) (axis : Nat) (bound : axis < rank)
    (names : number = axis ∨ number = (axis : Int) - rank) :
    ∃ a, build functionName function number rank elem = .ok a ∧ a.function = function ∧
      a.axis = axis ∧ a.rank = rank ∧ a.elem = elem := by
  have resolved := (Axis.resolve_eq_ok rank number axis).mpr ⟨bound, names⟩
  refine ⟨⟨"axis_apply_" ++ functionName, functionName, function, axis, rank, elem⟩, ?_,
    rfl, rfl, rfl, rfl⟩
  simp [build, resolved, KernelError.ofAxis]

/-- A function can be applied along every axis of an array, given by its number or by its number
    less the rank. It is called on the lanes along the axis, in row-major order of the other
    coordinates; the first failure is the result, and otherwise the scalars make up an array of the
    element type, without the axis. Where the other axes have no coordinate, it is not called.

    The axis must be the last one or the strides of the array be words, and the other axes must be
    counted by words. Of an array that fails this the run ends without a call, though the array has
    no elements. -/
theorem apply_is_lanewise (functionName : String) (function : LaneFunction) (number : Int)
    (rank : Nat) (elem : ElemType) (axis : Nat) (bound : axis < rank)
    (names : number = axis ∨ number = (axis : Int) - rank) :
    ∃ a, build functionName function number rank elem = .ok a ∧
      ∀ t : Tensor, t.Valid → t.rank = rank →
        (∀ rest, Shape.contains (t.shape.eraseIdx axis) rest = true →
          IsLane t axis rest (t.laneAlong axis rest)) ∧
        (t.shape.LaneFits axis → ∃ calls, (a.noted t).outcome [] = (a.apply t, calls) ∧
          Lanewise function axis elem t (a.apply t) calls ∧
          (Shape.count (t.shape.eraseIdx axis) = 0 → calls = [])) ∧
        (¬ t.shape.LaneFits axis → 0 ∈ t.shape ∧
          (a.noted t).outcome [] = (.error (.inTensor .overflow), []) ∧
          a.apply t = .error (.inTensor .overflow)) := by
  obtain ⟨a, built, rfl, rfl, rfl, rfl⟩ :=
    build_ok functionName function number rank elem axis bound names
  refine ⟨a, built, ?_⟩
  intro t valid sameRank
  refine ⟨fun rest => isLane_laneAlong valid a.axis (sameRank ▸ bound) rest, fun fits => ?_,
    fun tooLarge => ?_⟩
  · refine ⟨_, outcome_noted valid sameRank bound fits [],
      apply_lanewise valid sameRank bound fits, ?_⟩
    intro empty
    have none : lanes t a.axis = [] := by simp [lanes, Shape.coordinates_eq, empty]
    rw [none]
    rfl
  · refine ⟨?_, outcome_noted_overflow valid sameRank bound tooLarge [],
      applyWith_overflow a.function valid sameRank bound tooLarge⟩
    by_contra full
    exact tooLarge (Shape.laneFits_of_full full valid.2.2 a.axis)

/-- Two rows of three elements. -/
def grid : Tensor := ⟨.i8, [2, 3], .signed #[1, 2, 3, 4, 5, 6]⟩

/-- The first element of a lane, which must not be two. -/
def firstButTwo : LaneFunction := fun lane =>
  if lane.flat? 0 = some (.int 2) then .error (.unimplemented "lane" "starts with two")
  else .ok ((lane.flat? 0).getD (.int 0))

/-- Of the three columns the second one fails and the third is not called on; both rows give their
    first element. The hollow array has a result along its last axis and none along its second. -/
theorem apply_is_lanewise_grid :
    (∃ a, build "first" firstButTwo (-2) 2 .i64 = .ok a ∧
      (a.noted grid).outcome [] = (.error (.unimplemented "lane" "starts with two"),
        [⟨.i8, [2], .signed #[1, 4]⟩, ⟨.i8, [2], .signed #[2, 5]⟩])) ∧
    (∃ a, build "first" firstButTwo 1 2 .i64 = .ok a ∧
      ∃ u, a.apply grid = .ok u ∧ u.elem = .i64 ∧ u.shape = [2] ∧ u.get [1] = .ok (.int 4)) ∧
    (∃ a, build "first" firstButTwo 2 3 .i64 = .ok a ∧
      ∃ u, a.apply .hollow = .ok u ∧ u.shape = [0, 2 ^ 32]) ∧
    ∃ a, build "first" firstButTwo 1 3 .i64 = .ok a ∧
      a.apply .hollow = .error (.inTensor .overflow) := by
  refine ⟨?_, ?_, ?_, ?_⟩
  · obtain ⟨a, built, along⟩ :=
      apply_is_lanewise "first" firstButTwo (-2) 2 .i64 0 (by decide) (by decide)
    obtain ⟨calls, outcome, ⟨called, failed, -⟩, -⟩ := (along grid (by decide) rfl).2.1 (by decide)
    have result := failed [grid.laneAlong 0 [0]] (grid.laneAlong 0 [1]) [grid.laneAlong 0 [2]]
      (.unimplemented "lane" "starts with two") (by decide +kernel) (by
        intro earlier listed
        obtain rfl := List.mem_singleton.mp listed
        exact ⟨.int 1, by decide +kernel⟩) (by decide +kernel)
    refine ⟨a, built, ?_⟩
    rw [outcome, result, called]
    decide +kernel
  · obtain ⟨a, built, along⟩ :=
      apply_is_lanewise "first" firstButTwo 1 2 .i64 1 (by decide) (by decide)
    obtain ⟨calls, -, ⟨-, -, each⟩, -⟩ := (along grid (by decide) rfl).2.1 (by decide)
    have rows : ∀ rest ∈ Shape.coordinates [2],
        firstButTwo (grid.laneAlong 1 rest) = .ok (grid.element (rest ++ [0])) := by
      decide +kernel
    obtain ⟨u, applied, -, elem, shape, element⟩ :=
      each (fun rest => grid.element (rest ++ [0])) fun rest inside =>
        rows rest ((Shape.mem_coordinates [2] rest).mpr inside)
    refine ⟨a, built, u, applied, elem, shape, ?_⟩
    rw [element [1] (by decide)]
    decide +kernel
  · obtain ⟨a, built, along⟩ :=
      apply_is_lanewise "first" firstButTwo 2 3 .i64 2 (by decide) (by decide)
    obtain ⟨calls, -, ⟨-, -, each⟩, -⟩ :=
      (along .hollow (by decide) rfl).2.1 (by decide)
    obtain ⟨u, applied, -, -, shape, -⟩ := each (fun _ => .int 0) fun rest inside =>
      absurd (Shape.full_of_contains inside) (by decide)
    exact ⟨a, built, u, applied, shape⟩
  · obtain ⟨a, built, along⟩ :=
      apply_is_lanewise "first" firstButTwo 1 3 .i64 1 (by decide) (by decide)
    exact ⟨a, built, ((along .hollow (by decide) rfl).2.2 (by decide)).2.2⟩

end AxisApply

end LoopKernels
