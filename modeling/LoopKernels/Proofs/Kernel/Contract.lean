import LoopKernels.Proofs.Kernel.Arguments

/-!
# The contract of a signature

A kernel with a signature stands between a caller and a definition, and trusts neither.
Arguments reach the definition only in the declared number, ranks and element types;
anything else is refused before the definition runs, with an error that does not depend on
it. What the definition returns may have any form, rank and element type. The caller sees
a value of the declared type and rank or an error, and sees a plain scalar exactly where
the signature announces one.

Nothing is assumed of the arguments or of the definition here. Which arguments are refused
is the subject of the arguments that a signature accepts.
-/

namespace LoopKernels

/-- The element type and rank that an array has. -/
def ArgType.ofTensor (t : Tensor) : ArgType := ⟨t.elem, t.rank⟩

namespace Value

/-- A converted value has the target's element type. -/
@[simp] theorem elem_convert (v : Value) (target : ElemType) :
    (v.convert target).elem = target := by
  cases v with
  | tensor t => exact t.elem_convert target
  | scalar value elem => rfl

/-- Conversion keeps the lengths. -/
@[simp] theorem shape_convert (v : Value) (target : ElemType) :
    (v.convert target).shape = v.shape := by
  cases v with
  | tensor t => exact t.shape_convert target
  | scalar value elem => rfl

/-- Conversion keeps scalars and arrays apart. -/
@[simp] theorem isScalar_convert (v : Value) (target : ElemType) :
    (v.convert target).isScalar = v.isScalar := by
  cases v <;> rfl

end Value

namespace Signature

variable {s : Signature}

/-- Arguments that are let through have the declared types and ranks, one for each declared
    argument. -/
theorem types_of_coerceInputs {inputs coerced : List Tensor}
    (accepted : s.coerceInputs inputs = .ok coerced) :
    coerced.map ArgType.ofTensor = s.inputs := by
  obtain ⟨⟨ranks, -⟩, rfl⟩ := (coerceInputs_eq_ok s inputs coerced).mp accepted
  have sameCount : inputs.length = s.inputs.length := by
    simpa using congrArg List.length ranks
  refine List.ext_getElem (by simp [sameCount]) ?_
  intro k here there
  have given : k < inputs.length := by omega
  have rank : inputs[k].rank = s.inputs[k].rank := by
    have atK := congrArg (·[k]?) ranks
    simpa [given, there] using atK
  simp only [List.getElem_map, List.getElem_zip, ArgType.ofTensor, Tensor.elem_convert]
  rw [Tensor.rank, Tensor.shape_convert, ← Tensor.rank, rank]

/-- A result in the declared rank is a plain scalar exactly when the signature says so. An array
    stays one under such a signature only if it has axes, and then its rank is refused. -/
theorem isScalar_of_coerceForm (announced : s.outputScalar = true → s.output.rank = 0)
    {v formed : Value} (form : s.coerceForm v = .ok formed)
    (rank : formed.shape.length = s.output.rank) : formed.isScalar = s.outputScalar := by
  cases v with
  | tensor t =>
    simp only [coerceForm] at form
    split at form
    next scalar =>
      obtain ⟨value, -, same⟩ := (Outcome.bind_eq_ok _ _ _).mp form
      obtain rfl := Except.ok.inj same
      exact (Bool.and_eq_true_iff.mp scalar).1.symm
    next array =>
      obtain rfl := Except.ok.inj form
      cases plain : s.outputScalar with
      | false => rfl
      | true =>
        have noAxes : t.rank = 0 := rank.trans (announced plain)
        simp [plain, noAxes] at array
  | scalar value elem =>
    cases plain : s.outputScalar with
    | false =>
      obtain rfl : Value.tensor (Tensor.single value elem) = formed := by
        simpa [coerceForm, plain] using form
      rfl
    | true =>
      obtain rfl : Value.scalar value elem = formed := by
        simpa [coerceForm, plain] using form
      rfl

/-- What passes a signature on its way out has the declared element type, rank and form. -/
theorem declared_of_coerceOutput (announced : s.outputScalar = true → s.output.rank = 0)
    {v result : Value} (passed : s.coerceOutput v = .ok result) :
    result.elem = s.output.elem ∧ result.shape.length = s.output.rank ∧
      result.isScalar = s.outputScalar := by
  obtain ⟨formed, form, rest⟩ := (Outcome.bind_eq_ok _ _ _).mp passed
  obtain ⟨sameRank, same⟩ := (Outcome.unless_eq_ok _ _ _ _).mp rest
  obtain rfl := Except.ok.inj same
  have rank : formed.shape.length = s.output.rank := not_not.mp sameRank
  refine ⟨by simp, by simpa using rank, ?_⟩
  rw [Value.isScalar_convert, isScalar_of_coerceForm announced form rank]

/-- The signature of a node announces a plain scalar only for an output without axes. -/
theorem announced_of_ofNode {node : Node} {scalar : Bool} (named : ofNode node scalar = .ok s) :
    s.outputScalar = true → s.output.rank = 0 := by
  unfold ofNode at named
  split at named
  next output _ =>
    obtain rfl := Except.ok.inj named
    intro plain
    simpa [ArgType.ofType] using (Bool.and_eq_true_iff.mp plain).2
  next => simp at named

end Signature

namespace Kernel

variable {s : Signature} {options : Options}

/-- A call is refused before any definition runs, or runs the definition once, on arguments of the
    declared types and ranks. -/
theorem call_passes_declared (s : Signature) (options : Options) (inputs : List Tensor) :
    (∃ e, ∀ definition, (Kernel.mk definition (some s) options).call inputs = .error e) ∨
      ∃ args, args.map ArgType.ofTensor = s.inputs ∧ ∀ definition,
        (Kernel.mk definition (some s) options).call inputs =
          definition.run options args >>= s.coerceOutput := by
  cases coerced : s.coerceInputs inputs with
  | error e =>
    left
    refine ⟨e, ?_⟩
    intro definition
    simp [call, coerced]
  | ok args =>
    right
    refine ⟨args, Signature.types_of_coerceInputs coerced, ?_⟩
    intro definition
    simp [call, coerced]

/-- A value that a call returns has the declared element type, rank and form. -/
theorem declared_of_call (announced : s.outputScalar = true → s.output.rank = 0)
    {definition : Definition} {inputs : List Tensor} {v : Value}
    (returned : (Kernel.mk definition (some s) options).call inputs = .ok v) :
    v.elem = s.output.elem ∧ v.shape.length = s.output.rank ∧ v.isScalar = s.outputScalar := by
  rcases call_passes_declared s options inputs with ⟨e, refused⟩ | ⟨args, -, runs⟩
  · rw [refused definition] at returned
    simp at returned
  · rw [runs definition] at returned
    obtain ⟨value, -, passed⟩ := (Outcome.bind_eq_ok _ _ _).mp returned
    exact Signature.declared_of_coerceOutput announced passed

end Kernel

/-- The signature of a node with one output is honoured on both sides, whatever the definition and
    the options. Compiling with it does not fail. A call on any arguments is refused before the
    definition runs, or runs it on arguments whose number, ranks and element types are the
    declared ones. A value that is returned has the declared element type and rank, and is a
    plain scalar exactly when the signature announces one. -/
theorem signature_is_honoured (node : Node) (output : TensorType)
    (single : node.outputs = [output]) (scalar : Bool) (options : Options) :
    ∃ s, Signature.ofNode node scalar = .ok s ∧
      (∀ definition, Kernel.compile definition (some s) options =
        .ok ⟨definition, some s, options⟩) ∧
      ∀ inputs,
        ((∃ e, ∀ definition, (Kernel.mk definition (some s) options).call inputs = .error e) ∨
          ∃ args, args.map ArgType.ofTensor = s.inputs ∧ ∀ definition,
            (Kernel.mk definition (some s) options).call inputs =
              definition.run options args >>= s.coerceOutput) ∧
        ∀ definition v, (Kernel.mk definition (some s) options).call inputs = .ok v →
          v.elem = s.output.elem ∧ v.shape.length = s.output.rank ∧
            (v.isScalar = true ↔ s.outputScalar = true) := by
  obtain ⟨s, named⟩ : ∃ s, Signature.ofNode node scalar = .ok s := by
    simp [Signature.ofNode, single]
  refine ⟨s, named, fun definition => Kernel.compile_signed definition s options, ?_⟩
  intro inputs
  refine ⟨Kernel.call_passes_declared s options inputs, ?_⟩
  intro definition v returned
  obtain ⟨elem, rank, form⟩ :=
    Kernel.declared_of_call (Signature.announced_of_ofNode named) returned
  exact ⟨elem, rank, by rw [form]⟩

/-- A definition that returns the number of axes of its arguments, as an array of bytes. -/
def axesInAll : Definition where
  name := "axes_in_all"
  label := "count"
  listing := []
  run _ inputs := .ok (.tensor (.single (.uint (.ofNat (inputs.map Tensor.rank).sum)) .u8))

/-- A node from a matrix of truth values to one 16-bit integer. -/
def axesNode : Node := ⟨.argmax none, [.dynamic .bool 2], [.dynamic .i16 0]⟩

/-- An array of doubles reaches the definition as truth values, and its array of bytes reaches the
    caller as a plain 16-bit scalar. -/
theorem signature_is_honoured_axes :
    ∃ s, Signature.ofNode axesNode true = .ok s ∧
      (∃ args, args.map ArgType.ofTensor = [⟨.bool, 2⟩] ∧
        (Kernel.mk axesInAll (some s) {}).call [⟨.f64, [3, 0], .float #[]⟩] =
          axesInAll.run {} args >>= s.coerceOutput) ∧
      ∃ v, (Kernel.mk axesInAll (some s) {}).call [⟨.f64, [3, 0], .float #[]⟩] = .ok v ∧
        v.elem = .i16 ∧ v.shape.length = 0 ∧ v.isScalar = true := by
  obtain ⟨s, named, -, honours⟩ := signature_is_honoured axesNode (.dynamic .i16 0) rfl true {}
  obtain rfl := Except.ok.inj named
  obtain ⟨passes, returns⟩ := honours [⟨.f64, [3, 0], .float #[]⟩]
  have called : (Kernel.mk axesInAll (some ⟨[⟨.bool, 2⟩], ⟨.i16, 0⟩, true⟩) {}).call
      [⟨.f64, [3, 0], .float #[]⟩] = .ok (.scalar (.int 2) .i16) := by decide +kernel
  refine ⟨_, named, ?_, _, called, ?_⟩
  · rcases passes with ⟨e, refused⟩ | ⟨args, types, runs⟩
    · exact absurd (called.symm.trans (refused axesInAll)) (by simp)
    · exact ⟨args, types, runs axesInAll⟩
  · obtain ⟨elem, rank, form⟩ := returns axesInAll _ called
    exact ⟨elem, rank, form.mpr rfl⟩

end LoopKernels
