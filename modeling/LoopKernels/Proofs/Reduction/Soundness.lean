import LoopKernels.Proofs.Kernel.Soundness
import LoopKernels.Proofs.Reduction.Lanes
import LoopKernels.Reduction.Axes

/-!
# Reductions keep arrays sound

An accumulator is never written to an array before it leaves the loop: a minimum or a
maximum may even leave the loop as the seed it started from. What carries its bounds is
that the seed fits the element type and that every update of a fitting accumulator fits.
Every reducer that is built has such a seed.
-/

namespace LoopKernels

/-- The value that seeds an accumulator fits its type. Only the extremes of a type are not
    cast; they are the bounds themselves. -/
theorem Scalar.seed_fits (s : Scalar) (e : ElemType) : (s.seed e).Fits e := by
  cases s with
  | bool b => exact Scalar.cast_fits _ e
  | int n => exact Scalar.cast_fits _ e
  | uint n => exact Scalar.cast_fits _ e
  | float x =>
    have casts : (if isIntegral x && !e.isFloat then (int (floatToInt64 x)).cast e
        else (float x).cast e).Fits e := by
      split <;> exact Scalar.cast_fits _ e
    simp only [Scalar.seed, clampedIdentity]
    cases infinite : x.isInf with
    | false => exact casts
    | true =>
      cases e with
      | f32 | f64 => exact casts
      | _ =>
        by_cases positive : 0 < x <;>
          simp only [positive, ElemType.bounds, ElemType.family, if_true, if_false] <;>
          exact ⟨by decide, by decide⟩

namespace Update

/-- An update casts its result, or keeps the accumulator. -/
theorem apply_fits (u : Update) (e : ElemType) (acc value : Scalar) (before : Nat)
    (accumulated : acc.Fits e) : (u.apply e acc value before).Fits e := by
  cases u with
  | max | min =>
    simp only [apply]
    split
    · exact value.cast_fits e
    · exact accumulated
  | mulWithoutZeros =>
    simp only [apply, Scalar.mulWithoutZeros]
    split
    · exact value.cast_fits e
    · split <;> exact Scalar.cast_fits _ e
  | _ => exact Scalar.cast_fits _ e

end Update

namespace AxisReducer

variable (r : AxisReducer)

/-- The reduced element of a lane fits the type of the accumulator. -/
theorem reduceLane_fits (seeded : r.seed.Fits r.elem) (l : Loader) (rest : Coord) (value : Scalar)
    (reduced : r.reduceLane l rest = .ok value) : value.Fits r.elem := by
  refine Outcome.foldlM_keeps _ (·.Fits r.elem) ?_ _ r.seed value seeded reduced
  intro before index after fits advanced
  obtain ⟨element, -, same⟩ := (Outcome.bind_eq_ok _ _ _).mp advanced
  obtain rfl := Except.ok.inj same
  exact r.update.apply_fits r.elem before element index fits

/-- A result that is filled position by position is sound. -/
theorem reduceMany_sound (l : Loader) (u : Tensor) (reduced : r.reduceMany l = .ok u) :
    u.Sound := by
  obtain ⟨blank, made, rest⟩ := (Outcome.bind_eq_ok _ _ _).mp reduced
  obtain ⟨full, filled, rest⟩ := (Outcome.bind_eq_ok _ _ _).mp rest
  have sound : full.Sound := by
    have begun := Tensor.full_sound _ _ _ ((Outcome.ofTensor_eq_ok _ _).mp made)
    refine Outcome.foldlM_keeps _ Tensor.Sound ?_ _ blank full begun filled
    intro before place after sound stepped
    obtain ⟨value, -, written⟩ := (Outcome.bind_eq_ok _ _ _).mp stepped
    exact sound.setFlat place.2 value ((Outcome.ofTensor_eq_ok _ _).mp written)
  split at rest
  · exact sound.expandDims r.axis ((Outcome.ofTensor_eq_ok _ _).mp rest)
  · obtain rfl := Except.ok.inj rest
    exact sound

/-- The reduction of an array with one axis is sound. -/
theorem reduceOne_sound (seeded : r.seed.Fits r.elem) (l : Loader) (v : Value)
    (reduced : r.reduceOne l = .ok v) : v.Sound := by
  obtain ⟨value, lane, rest⟩ := (Outcome.bind_eq_ok _ _ _).mp reduced
  split at rest
  · obtain ⟨kept, made, same⟩ := (Outcome.bind_eq_ok _ _ _).mp rest
    obtain rfl := Except.ok.inj same
    exact Tensor.full_sound _ _ _ ((Outcome.ofTensor_eq_ok _ _).mp made)
  · split at rest <;> obtain rfl := Except.ok.inj rest
    · exact r.reduceLane_fits seeded l [] value lane
    · exact Tensor.single_sound _ _

/-- A reduction that succeeds gives a sound result, on any array. -/
theorem reduce_sound (seeded : r.seed.Fits r.elem) (t : Tensor) (checked : Bool) (v : Value)
    (reduced : r.reduce t checked = .ok v) : v.Sound := by
  unfold reduce at reduced
  split at reduced
  · simp at reduced
  · obtain ⟨l, -, rest⟩ := (Outcome.bind_eq_ok _ _ _).mp reduced
    split at rest
    · obtain ⟨u, many, same⟩ := (Outcome.bind_eq_ok _ _ _).mp rest
      obtain rfl := Except.ok.inj same
      exact r.reduceMany_sound l u many
    · exact r.reduceOne_sound seeded l v rest

/-- A reducer whose seed is of its type returns sound arrays. -/
theorem definition_sound (seeded : r.seed.Fits r.elem) : r.definition.Sound :=
  r.definition.sound_of_one (fun options t => r.reduce t options.boundscheck) (fun _ _ => rfl)
    fun options t v _ reduced => r.reduce_sound seeded t options.boundscheck v reduced

/-- A reducer is built with a seed that fits. -/
theorem seed_of_build (op : Operator) (seed : Scalar) (axis : Int) (rank : Nat) (elem : ElemType)
    (keepDims returnScalar : Bool)
    (built : build op seed axis rank elem keepDims returnScalar = .ok r) :
    r.seed.Fits r.elem := by
  obtain ⟨resolved, update, _, _, rfl⟩ := (build_eq_ok _ _ _ _ _ _ _ _).mp built
  exact seed.seed_fits elem

end AxisReducer

namespace AxesReducer

/-- Every step of a chain has a seed that fits. -/
theorem seed_of_chain (op : Operator) (seed : Scalar) (elem : ElemType) (number rank : Nat)
    (axes : List Nat) (reducers : List AxisReducer)
    (built : chain op seed elem number rank axes = .ok reducers) :
    ∀ r ∈ reducers, r.seed.Fits r.elem := by
  induction axes generalizing number rank reducers with
  | nil =>
    obtain rfl := Except.ok.inj built
    simp
  | cons axis axes inductionHypothesis =>
    obtain ⟨first, head, rest⟩ := (Outcome.bind_eq_ok _ _ _).mp built
    obtain ⟨others, tail, same⟩ := (Outcome.bind_eq_ok _ _ _).mp rest
    obtain rfl := Except.ok.inj same
    rw [List.forall_mem_cons]
    exact ⟨first.seed_of_build op seed axis rank elem false false head,
      inductionHypothesis _ _ others tail⟩

/-- Sound kernels run one after the other keep an array sound. -/
theorem runSteps_sound (steps : List Kernel) (defined : ∀ step ∈ steps, step.definition.Sound)
    (t u : Tensor) (sound : t.Sound) (ran : runSteps steps t = .ok u) : u.Sound := by
  induction steps generalizing t with
  | nil =>
    obtain rfl := Except.ok.inj ran
    exact sound
  | cons step steps inductionHypothesis =>
    rw [List.forall_mem_cons] at defined
    obtain ⟨value, called, rest⟩ := (Outcome.bind_eq_ok _ _ _).mp ran
    have first := step.call_sound defined.1 [t] (by simpa using sound) value called
    exact inductionHypothesis defined.2 value.toTensor first.toTensor rest

/-- Reducers of sound steps return sound arrays. -/
theorem definition_sound (r : AxesReducer) (defined : ∀ step ∈ r.steps, step.definition.Sound) :
    r.definition.Sound := by
  refine r.definition.sound_of_one (fun _ t => r.reduce t) (fun _ _ => rfl) ?_
  intro _ t v sound reduced
  obtain ⟨u, ran, rest⟩ := (Outcome.bind_eq_ok _ _ _).mp reduced
  have result := runSteps_sound r.steps defined t u sound ran
  split at rest
  · obtain ⟨value, only, same⟩ := (Outcome.bind_eq_ok _ _ _).mp rest
    obtain rfl := Except.ok.inj same
    exact result.item value (by simpa using only)
  · obtain rfl := Except.ok.inj rest
    exact result

end AxesReducer

/-- Every reduction that is built is sound. -/
theorem Reducer.definition_sound (op : Operator) (seed : Scalar) (axes : List Int) (rank : Nat)
    (elem : ElemType) (inputName : String) (returnScalar : Bool) (config : Config) (r : Reducer)
    (built : Reducer.build op seed axes rank elem inputName returnScalar config = .ok r) :
    r.definition.Sound := by
  unfold Reducer.build at built
  split at built
  · obtain ⟨reducer, first, same⟩ := (Outcome.bind_eq_ok _ _ _).mp built
    obtain rfl := Except.ok.inj same
    exact reducer.definition_sound (reducer.seed_of_build op seed _ rank elem false false first)
  · obtain ⟨reducer, several, same⟩ := (Outcome.bind_eq_ok _ _ _).mp built
    obtain rfl := Except.ok.inj same
    obtain ⟨resolved, _, rest⟩ := (Outcome.bind_eq_ok _ _ _).mp several
    obtain ⟨_, _, rest⟩ := (Outcome.bind_eq_ok _ _ _).mp rest
    obtain ⟨reducers, chained, same⟩ := (Outcome.bind_eq_ok _ _ _).mp rest
    obtain rfl := Except.ok.inj same
    refine AxesReducer.definition_sound _ ?_
    intro step member
    obtain ⟨reducer, listed, rfl⟩ := List.mem_map.mp member
    exact reducer.definition_sound
      (AxesReducer.seed_of_chain op seed elem 0 rank _ reducers chained reducer listed)

end LoopKernels
