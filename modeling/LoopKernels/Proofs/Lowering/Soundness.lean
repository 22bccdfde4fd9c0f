import LoopKernels.Lowering.Compile
import LoopKernels.Proofs.Elementwise.Agreement
import LoopKernels.Proofs.Reduction.Soundness

/-!
# Compiled nodes keep arrays sound

Whatever a kernel gives on sound arrays is sound, for every node that compiles and every
configuration. Each kind of operator is taken by itself: its definition is sound because
the operations it is made of cast what they write or move what was sound. The element
type of the result need not be that of the node's output; a result is sound for the type
it has.
-/

namespace LoopKernels

/-- Elements written one after the other are cast one after the other. -/
theorem Tensor.Sound.overwrite {t u : Tensor} (sound : t.Sound) (values : List Scalar)
    (position : Nat) (written : t.overwrite position values = .ok u) : u.Sound := by
  induction values generalizing position t with
  | nil =>
    obtain rfl := Except.ok.inj written
    exact sound
  | cons value values inductionHypothesis =>
    obtain ⟨next, first, rest⟩ := (Outcome.bind_eq_ok _ _ _).mp written
    exact inductionHypothesis (sound.setFlat position value first) (position + 1) rest

namespace Vectorized

/-- The output is sound, in a new buffer as in one that is taken over. -/
theorem eval_sound (core : OutputStore) (plan : BatchPlan) (inputs : List Tensor)
    (sound : ∀ t ∈ inputs, t.Sound) (u : Tensor) (evaluated : eval core plan inputs = .ok u) :
    u.Sound := by
  unfold eval evalBy at evaluated
  obtain ⟨_, rest⟩ := (Outcome.unless_eq_ok _ _ _ _).mp evaluated
  split at rest
  · simp at rest
  · obtain ⟨shape, _, rest⟩ := (Outcome.bind_eq_ok _ _ _).mp rest
    obtain ⟨values, _, rest⟩ := (Outcome.bind_eq_ok _ _ _).mp rest
    split at rest
    · rename_i input buffer found
      have taken := sound buffer (reused_eq_some plan inputs shape _ input buffer found).1
      exact taken.overwrite values 0 (by simpa using rest)
    · exact Tensor.ofScalars_sound _ shape values (by simpa using rest)

end Vectorized

/-- Scalars computed along the lanes of an array are cast. -/
theorem AxisApply.apply_sound (a : AxisApply) (t u : Tensor) (applied : a.apply t = .ok u) :
    u.Sound := by
  unfold AxisApply.apply AxisApply.applyWith at applied
  split at applied
  · cases applied
  · obtain ⟨moved, _, rest⟩ := (Outcome.bind_eq_ok _ _ _).mp applied
    obtain ⟨count, _, rest⟩ := (Outcome.bind_eq_ok _ _ _).mp rest
    obtain ⟨values, _, rest⟩ := (Outcome.bind_eq_ok _ _ _).mp rest
    exact Tensor.ofScalars_sound a.elem _ values ((Outcome.ofTensor_eq_ok _ _).mp rest)

namespace Lowering

variable {t u : Tensor}

/-- A shuffle of a sound array is sound. -/
theorem ShufflePlan.run_sound (p : ShufflePlan) (sound : t.Sound) (ran : p.run t = .ok u) :
    u.Sound := by
  unfold ShufflePlan.run at ran
  obtain ⟨_, rest⟩ := (Outcome.unless_eq_ok _ _ _ _).mp ran
  have reshaped : ∀ moved : Tensor, moved.Sound →
      (if p.outputRank = 0 then KernelError.ofTensor (moved.reshape [])
        else KernelError.ofTensor (moved.reshape (p.outputShape moved.shape))) = .ok u →
      u.Sound := by
    intro moved movedSound result
    split at result <;> exact movedSound.reshape _ (by simpa using result)
  dsimp only at rest
  by_cases identity : p.isIdentity = true
  · rw [if_pos identity] at rest
    exact reshaped t sound rest
  · rw [if_neg identity] at rest
    obtain ⟨moved, transposed, rest⟩ := (Outcome.bind_eq_ok _ _ _).mp rest
    exact reshaped moved (sound.transpose _ (by simpa using transposed)) rest

/-- The place of the only element is the integer zero; other places are computed along
    lanes. -/
theorem ArgmaxPlan.run_sound (p : ArgmaxPlan) (v : Value) (ran : p.run t = .ok v) : v.Sound := by
  cases p with
  | rankZero =>
    obtain rfl := Except.ok.inj ran
    exact ⟨by decide, by decide⟩
  | joint order kept along =>
    obtain ⟨places, joint, same⟩ := (Outcome.bind_eq_ok _ _ _).mp ran
    obtain rfl := Except.ok.inj same
    unfold ArgmaxPlan.runJoint at joint
    obtain ⟨_, rest⟩ := (Outcome.unless_eq_ok _ _ _ _).mp joint
    obtain ⟨transposed, _, rest⟩ := (Outcome.bind_eq_ok _ _ _).mp rest
    obtain ⟨count, _, rest⟩ := (Outcome.bind_eq_ok _ _ _).mp rest
    obtain ⟨flattened, _, applied⟩ := (Outcome.bind_eq_ok _ _ _).mp rest
    exact along.apply_sound flattened places applied

/-- A shortcut of a sound array is sound. -/
theorem SumShortcut.run_sound (s : SumShortcut) (sound : t.Sound) : (s.run t).Sound := by
  cases s with
  | total sum accumulator output => exact Tensor.single_sound _ output
  | copy output => exact sound.convert output

/-- The last step of a softmax combines two arrays, which casts. -/
theorem Softmax.run_sound (s : Softmax) (ran : s.run t = .ok u) : u.Sound := by
  unfold Softmax.run at ran
  split at ran
  · obtain ⟨centred, _, rest⟩ := (Outcome.bind_eq_ok _ _ _).mp ran
    obtain ⟨total, _, rest⟩ := (Outcome.bind_eq_ok _ _ _).mp rest
    exact Tensor.zipWith_sound _ _ _ _ (by simpa [combine] using rest)
  · obtain ⟨centred, _, rest⟩ := (Outcome.bind_eq_ok _ _ _).mp ran
    obtain ⟨total, _, rest⟩ := (Outcome.bind_eq_ok _ _ _).mp rest
    exact Tensor.zipWith_sound _ _ _ _ (by simpa [quotient] using rest)

/-- The gradient is sound, whatever the arrays. -/
theorem SoftmaxGradient.run_sound (g : SoftmaxGradient) (slope softmax : Tensor)
    (ran : g.run slope softmax = .ok u) : u.Sound := by
  obtain ⟨product, _, rest⟩ := (Outcome.bind_eq_ok _ _ _).mp ran
  obtain ⟨total, _, rest⟩ := (Outcome.bind_eq_ok _ _ _).mp rest
  obtain ⟨scaled, _, rest⟩ := (Outcome.bind_eq_ok _ _ _).mp rest
  exact Tensor.zipWith_sound _ _ _ _ (by simpa [combine] using rest)

/-! ## Nodes -/

variable {node : Node} {config : Config} {kernel : Kernel}

/-- Vectorized kernels return sound arrays. -/
theorem elementwise_sound (operator : Operator) (reuse : ReuseMap) (pair : Elementwise.KernelPair)
    (built : Elementwise.build operator reuse node config = .ok pair) :
    pair.vectorized.definition.Sound := by
  unfold Elementwise.build at built
  split at built
  · obtain ⟨_, _, rest⟩ := (Outcome.bind_eq_ok _ _ _).mp built
    obtain ⟨_, _, rest⟩ := (Outcome.bind_eq_ok _ _ _).mp rest
    obtain ⟨scalar, _, rest⟩ := (Outcome.bind_eq_ok _ _ _).mp rest
    obtain ⟨core, _, rest⟩ := (Outcome.bind_eq_ok _ _ _).mp rest
    obtain ⟨vectorized, compiled, rest⟩ := (Outcome.bind_eq_ok _ _ _).mp rest
    obtain ⟨reference, _, same⟩ := (Outcome.bind_eq_ok _ _ _).mp rest
    obtain rfl := Except.ok.inj same
    rw [Kernel.definition_of_compile _ _ _ _ compiled]
    intro options inputs v sound ran
    obtain ⟨result, evaluated, same⟩ := (Outcome.bind_eq_ok _ _ _).mp ran
    obtain rfl := Except.ok.inj same
    exact Vectorized.eval_sound core _ inputs sound result evaluated
  · simp at built

/-- Reductions return sound arrays. -/
theorem reduce_sound (op : Operator) (axes : Option (List Int)) (accumulator : Option ElemType)
    (compiled : reduce node op axes accumulator config = .ok kernel) :
    kernel.definition.Sound := by
  obtain ⟨input, _, rest⟩ := (Outcome.bind_eq_ok _ _ _).mp compiled
  obtain ⟨output, _, rest⟩ := (Outcome.bind_eq_ok _ _ _).mp rest
  split at rest
  · simp at rest
  · obtain ⟨reducer, built, rest⟩ := (Outcome.bind_eq_ok _ _ _).mp rest
    rw [Kernel.definition_of_compileReduction _ _ _ _ _ _ rest]
    exact Reducer.definition_sound _ _ _ _ _ _ _ _ reducer built

/-- The kernel of a shortcut returns sound arrays. -/
theorem SumShortcut.definition_sound (s : SumShortcut) : s.definition.Sound := by
  refine s.definition.sound_of_one (fun _ t => .ok (.tensor (s.run t))) (fun _ _ => rfl) ?_
  intro _ t v sound ran
  obtain rfl := Except.ok.inj ran
  exact s.run_sound sound

/-- Sums return sound arrays, by a reducer or by a shortcut. -/
theorem sum_sound (axes : Option (List Int)) (accumulator : Option ElemType)
    (compiled : sum node axes accumulator config = .ok kernel) : kernel.definition.Sound := by
  obtain ⟨input, _, rest⟩ := (Outcome.bind_eq_ok _ _ _).mp compiled
  obtain ⟨output, _, rest⟩ := (Outcome.bind_eq_ok _ _ _).mp rest
  obtain ⟨reduced, _, rest⟩ := (Outcome.bind_eq_ok _ _ _).mp rest
  split at rest
  · rw [Kernel.definition_of_compile _ _ _ _ rest]
    exact SumShortcut.definition_sound _
  · split at rest
    · rw [Kernel.definition_of_compile _ _ _ _ rest]
      exact SumShortcut.definition_sound _
    · exact reduce_sound _ _ _ rest

/-- Shuffles return sound arrays. -/
theorem shuffle_sound (s : Shuffle) (compiled : shuffle node s config = .ok kernel) :
    kernel.definition.Sound := by
  obtain ⟨input, _, rest⟩ := (Outcome.bind_eq_ok _ _ _).mp compiled
  obtain ⟨output, _, rest⟩ := (Outcome.bind_eq_ok _ _ _).mp rest
  obtain ⟨_, rest⟩ := (Outcome.unless_eq_ok _ _ _ _).mp rest
  obtain ⟨_, _, rest⟩ := (Outcome.bind_eq_ok _ _ _).mp rest
  obtain ⟨_, rest⟩ := (Outcome.unless_eq_ok _ _ _ _).mp rest
  rw [Kernel.definition_of_compile _ _ _ _ rest]
  let plan : ShufflePlan := ⟨s, output.staticShape?⟩
  refine plan.definition.sound_of_one
    (fun _ t => plan.run t >>= fun shuffled => pure (.tensor shuffled)) (fun _ _ => rfl) ?_
  intro _ t v sound ran
  obtain ⟨shuffled, moved, same⟩ := (Outcome.bind_eq_ok _ _ _).mp ran
  obtain rfl := Except.ok.inj same
  exact plan.run_sound sound moved

/-- Softmax kernels return sound arrays. -/
theorem softmax_sound (isLog : Bool) (axis : Option Int)
    (compiled : softmax node isLog axis config = .ok kernel) : kernel.definition.Sound := by
  obtain ⟨input, _, rest⟩ := (Outcome.bind_eq_ok _ _ _).mp compiled
  obtain ⟨output, _, rest⟩ := (Outcome.bind_eq_ok _ _ _).mp rest
  obtain ⟨resolved, _, rest⟩ := (Outcome.bind_eq_ok _ _ _).mp rest
  obtain ⟨greatest, _, rest⟩ := (Outcome.bind_eq_ok _ _ _).mp rest
  obtain ⟨total, _, rest⟩ := (Outcome.bind_eq_ok _ _ _).mp rest
  rw [Kernel.definition_of_compileReduction _ _ _ _ _ _ rest]
  let s : Softmax := ⟨isLog, greatest, total, input.elem, output.elem⟩
  refine s.definition.sound_of_one
    (fun _ t => s.run t >>= fun result => pure (.tensor result)) (fun _ _ => rfl) ?_
  intro _ t v _ ran
  obtain ⟨result, computed, same⟩ := (Outcome.bind_eq_ok _ _ _).mp ran
  obtain rfl := Except.ok.inj same
  exact s.run_sound computed

/-- Gradients return sound arrays. -/
theorem softmaxGradient_sound (axis : Option Int)
    (compiled : softmaxGradient node axis config = .ok kernel) : kernel.definition.Sound := by
  unfold softmaxGradient at compiled
  split at compiled
  · obtain ⟨output, _, rest⟩ := (Outcome.bind_eq_ok _ _ _).mp compiled
    obtain ⟨resolved, _, rest⟩ := (Outcome.bind_eq_ok _ _ _).mp rest
    obtain ⟨total, _, rest⟩ := (Outcome.bind_eq_ok _ _ _).mp rest
    rw [Kernel.definition_of_compileReduction _ _ _ _ _ _ rest]
    intro options inputs v _ ran
    obtain ⟨pair, _, ran⟩ := (Outcome.bind_eq_ok _ _ _).mp ran
    obtain ⟨result, computed, same⟩ := (Outcome.bind_eq_ok _ _ _).mp ran
    obtain rfl := Except.ok.inj same
    exact SoftmaxGradient.run_sound _ pair.1 pair.2 computed
  · simp at compiled

/-- Argmax kernels return sound arrays. -/
theorem argmax_sound (axes : Option (List Nat))
    (compiled : argmax node axes config = .ok kernel) : kernel.definition.Sound := by
  obtain ⟨input, _, rest⟩ := (Outcome.bind_eq_ok _ _ _).mp compiled
  obtain ⟨output, _, rest⟩ := (Outcome.bind_eq_ok _ _ _).mp rest
  obtain ⟨plan, _, rest⟩ := (Outcome.bind_eq_ok _ _ _).mp rest
  rw [Kernel.definition_of_compile _ _ _ _ rest]
  exact plan.definition.sound_of_one (fun _ t => plan.run t) (fun _ _ => rfl)
    fun _ t v _ ran => plan.run_sound v ran

end Lowering

namespace Node

/-- Every kernel of a node has a sound definition. -/
theorem definition_sound (node : Node) (config : Config) (kernel : Kernel)
    (compiled : node.compile config = .ok kernel) : kernel.definition.Sound := by
  unfold compile at compiled
  split at compiled
  case h_1 operator reuse _ =>
    obtain ⟨pair, built, same⟩ := (Outcome.bind_eq_ok _ _ _).mp compiled
    obtain rfl := Except.ok.inj same
    exact Lowering.elementwise_sound operator reuse pair built
  case h_2 operator axes accumulator _ =>
    exact Lowering.reduce_sound operator axes accumulator compiled
  case h_3 axes accumulator _ => exact Lowering.sum_sound axes accumulator compiled
  case h_4 s _ => exact Lowering.shuffle_sound s compiled
  case h_5 axis _ => exact Lowering.softmax_sound false axis compiled
  case h_6 axis _ => exact Lowering.softmax_sound true axis compiled
  case h_7 axis _ => exact Lowering.softmaxGradient_sound axis compiled
  case h_8 axes _ => exact Lowering.argmax_sound axes compiled

/-- Whatever the kernel of a node gives on arrays with fitting storage and elements within
    their bounds has fitting storage and elements within its own bounds. -/
theorem results_are_sound (node : Node) (config : Config) (kernel : Kernel)
    (compiled : node.compile config = .ok kernel) (inputs : List Tensor)
    (sound : ∀ t ∈ inputs, t.Valid ∧ t.InRange) (v : Value)
    (called : kernel.call inputs = .ok v) :
    match v with
    | .tensor t => t.Valid ∧ t.InRange
    | .scalar s e => s.family = e.family ∧ s.inBounds e = true := by
  have result := kernel.call_sound (node.definition_sound config kernel compiled) inputs
    (fun t member => ⟨(sound t member).1, (sound t member).2⟩) v called
  cases v with
  | tensor t => exact ⟨result.valid, result.inRange⟩
  | scalar s e => exact ⟨result.family_eq, result.within⟩

/-- The square of a byte plus three hundred, in the buffer of the byte. The sum is carried out
    on doubles, since the constant is one. -/
def squarePlusConstant : Node :=
  ⟨.elementwise
    (.composite 1 [(.prim .mul, [.input 0, .input 0]), (.prim .add, [.step 0, .const 300])]
      (.step 1))
    (.ofPairs [(0, 0)]), [.dynamic .i8 1], [.dynamic .i8 1]⟩

/-- Squares and sums that leave the range of a byte come out within it. -/
theorem results_are_sound_bytes :
    ∃ kernel result, squarePlusConstant.compile {} = .ok kernel ∧
      kernel.call [⟨.i8, [3], .signed #[100, -128, 5]⟩] = .ok (.tensor result) ∧
      result.toList = [.int 60, .int 44, .int 69] ∧ result.Valid ∧ result.InRange := by
  refine ⟨_, ⟨.i8, [3], .signed #[60, 44, 69]⟩, rfl, by decide +kernel, rfl, ?_⟩
  exact results_are_sound squarePlusConstant {} _ rfl [⟨.i8, [3], .signed #[100, -128, 5]⟩]
    (by decide) (.tensor ⟨.i8, [3], .signed #[60, 44, 69]⟩) (by decide +kernel)

end Node

end LoopKernels
