import LoopKernels.Kernel.Basic
import LoopKernels.Proofs.Tensor.Soundness

/-!
# Kernels that keep arrays sound

A definition is sound when it gives sound results on sound arguments, under any options.
A signature converts arguments and results, and converting keeps them sound, so a kernel
is as sound as the definition it was compiled from.
-/

namespace LoopKernels

/-- Whatever the definition gives on sound arguments is sound. -/
def Definition.Sound (d : Definition) : Prop :=
  ∀ options inputs v, (∀ t ∈ inputs, t.Sound) → d.run options inputs = .ok v → v.Sound

/-- Only one argument is accepted where one is taken. -/
theorem oneArgument_eq_ok (kernel : String) (inputs : List Tensor) (t : Tensor)
    (given : oneArgument kernel inputs = .ok t) : inputs = [t] := by
  unfold oneArgument at given
  split at given
  · rw [Except.ok.inj given]
  · simp at given

/-- A definition of one argument is sound when its function is. -/
theorem Definition.sound_of_one (d : Definition) (f : Options → Tensor → Except KernelError Value)
    (runs : ∀ options inputs,
      d.run options inputs = (oneArgument d.name inputs >>= fun t => f options t))
    (preserves : ∀ options t v, t.Sound → f options t = .ok v → v.Sound) : d.Sound := by
  intro options inputs v sound ran
  rw [runs] at ran
  obtain ⟨t, given, result⟩ := (Outcome.bind_eq_ok _ _ _).mp ran
  obtain rfl := oneArgument_eq_ok d.name inputs t given
  exact preserves options t v (sound t (by simp)) result

namespace Signature

variable (s : Signature)

/-- Converted arguments are as sound as the arguments. -/
theorem coerceFrom_sound (position : Nat) (arguments : List (ArgType × Tensor))
    (sound : ∀ argument ∈ arguments, argument.2.Sound) (coerced : List Tensor)
    (converted : s.coerceFrom position arguments = .ok coerced) : ∀ t ∈ coerced, t.Sound := by
  induction arguments generalizing position coerced with
  | nil =>
    obtain rfl := Except.ok.inj converted
    simp
  | cons argument arguments inductionHypothesis =>
    obtain ⟨first, head, rest⟩ := (Outcome.bind_eq_ok _ _ _).mp converted
    obtain ⟨others, tail, same⟩ := (Outcome.bind_eq_ok _ _ _).mp rest
    obtain rfl := Except.ok.inj same
    rw [List.forall_mem_cons] at sound ⊢
    refine ⟨?_, inductionHypothesis _ sound.2 others tail⟩
    unfold coerceInput at head
    split at head
    · simp at head
    · obtain rfl := Except.ok.inj head
      exact sound.1.convert _

/-- Arguments stay sound when they are converted. -/
theorem coerceInputs_sound (inputs coerced : List Tensor) (sound : ∀ t ∈ inputs, t.Sound)
    (converted : s.coerceInputs inputs = .ok coerced) : ∀ t ∈ coerced, t.Sound := by
  obtain ⟨core, _, rest⟩ := (Outcome.bind_eq_ok _ _ _).mp converted
  obtain ⟨binding, _, rest⟩ := (Outcome.bind_eq_ok _ _ _).mp rest
  refine s.coerceFrom_sound 0 _ ?_ coerced rest
  intro argument member
  exact sound argument.2 (List.of_mem_zip member).2

/-- A result keeps its elements when it changes its form. -/
theorem coerceForm_sound (v formed : Value) (sound : v.Sound)
    (converted : s.coerceForm v = .ok formed) : formed.Sound := by
  cases v with
  | tensor t =>
    simp only [coerceForm] at converted
    split at converted
    · obtain ⟨value, only, same⟩ := (Outcome.bind_eq_ok _ _ _).mp converted
      obtain rfl := Except.ok.inj same
      exact Tensor.Sound.item sound value (by simpa using only)
    · obtain rfl := Except.ok.inj converted
      exact sound
  | scalar value elem =>
    simp only [coerceForm] at converted
    split at converted <;> obtain rfl := Except.ok.inj converted
    · exact sound
    · exact Tensor.single_sound value elem

/-- A result stays sound when it is brought into its declared form. -/
theorem coerceOutput_sound (v result : Value) (sound : v.Sound)
    (converted : s.coerceOutput v = .ok result) : result.Sound := by
  obtain ⟨formed, form, rest⟩ := (Outcome.bind_eq_ok _ _ _).mp converted
  obtain ⟨_, same⟩ := (Outcome.unless_eq_ok _ _ _ _).mp rest
  obtain rfl := Except.ok.inj same
  exact (s.coerceForm_sound v formed sound form).convert _

end Signature

namespace Kernel

/-- A kernel with a sound definition gives sound results on sound arguments. -/
theorem call_sound (k : Kernel) (defined : k.definition.Sound) (inputs : List Tensor)
    (sound : ∀ t ∈ inputs, t.Sound) (v : Value) (called : k.call inputs = .ok v) : v.Sound := by
  unfold call at called
  split at called
  · rename_i s signed
    obtain ⟨coerced, converted, rest⟩ := (Outcome.bind_eq_ok _ _ _).mp called
    obtain ⟨value, ran, finished⟩ := (Outcome.bind_eq_ok _ _ _).mp rest
    have arguments := s.coerceInputs_sound inputs coerced sound converted
    exact s.coerceOutput_sound value v (defined _ coerced value arguments ran) finished
  · exact defined _ inputs v sound called

/-- Compiling keeps the definition. -/
theorem definition_of_compile (d : Definition) (signature : Option Signature) (options : Options)
    (k : Kernel) (compiled : compile d signature options = .ok k) : k.definition = d := by
  cases signature with
  | none => rw [← Except.ok.inj compiled]
  | some s =>
    obtain ⟨_, _, same⟩ := (Outcome.bind_eq_ok _ _ _).mp compiled
    rw [← Except.ok.inj same]

/-- A compiled reduction runs the definition that it was given. -/
theorem definition_of_compileReduction (node : Node) (d : Definition) (scalar signed : Bool)
    (config : Config) (k : Kernel)
    (compiled : compileReduction node d scalar signed config = .ok k) : k.definition = d := by
  unfold compileReduction at compiled
  split at compiled
  · obtain ⟨_, _, rest⟩ := (Outcome.bind_eq_ok _ _ _).mp compiled
    exact definition_of_compile d _ _ k rest
  · exact definition_of_compile d _ _ k compiled

end Kernel

end LoopKernels
