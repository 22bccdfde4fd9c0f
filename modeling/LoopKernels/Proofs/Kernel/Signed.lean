import LoopKernels.Kernel.Basic
import LoopKernels.Proofs.Gufunc.Reading
import LoopKernels.Proofs.Tensor.Representation

/-!
# Kernels with a signature

A signature is compiled through the text of its generated names. That text is always
read back, so compiling with a signature never fails. With one argument the generated
names are all different and bind to any lengths: such a kernel accepts every array of
the declared rank, and when its definition gives an array of the declared form the
signature changes nothing.
-/

namespace LoopKernels

namespace CoreSignature

/-- The decimal digits of a number are word characters. -/
theorem word_of_digit (n : Nat) (c : Char) (digit : c ∈ (toString n).toList) :
    CharClasses.unicode.word c = true := by
  rw [Nat.toString_eq_ofList_toDigits, String.toList_ofList] at digit
  have isDigit := Nat.isDigit_of_mem_toDigits (by omega) (by omega) digit
  have within : '0'.toNat ≤ c.toNat ∧ c.toNat ≤ '9'.toNat := by
    simpa [Char.isDigit, Char.le_def, UInt32.le_iff_toNat_le] using isDigit
  refine List.any_eq_true.mpr ⟨(0x30, 0x39), List.mem_cons_self, ?_⟩
  simpa using within

/-- A letter followed by the numbers of an operand and an axis is a name. -/
theorem isName_generated (side : String) (operand axis : Nat) (nonempty : side ≠ "")
    (word : ∀ c ∈ side.toList, CharClasses.unicode.word c = true) :
    IsName .unicode (side ++ toString operand ++ toString axis) := by
  refine ⟨fun empty => nonempty ?_, fun c listed => ?_⟩
  · simpa using congrArg String.toList empty
  · simp only [String.toList_append, List.mem_append] at listed
    rcases listed with (letter | digit) | digit
    · exact word c letter
    · exact word_of_digit operand c digit
    · exact word_of_digit axis c digit

/-- Every name of a generated side can be written. -/
theorem isName_of_side (side : String) (ranks : List Nat) (nonempty : side ≠ "")
    (word : ∀ c ∈ side.toList, CharClasses.unicode.word c = true) (operand : List String)
    (listed : operand ∈ generatedSide side ranks) (name : String) (member : name ∈ operand) :
    IsName .unicode name := by
  obtain ⟨number, bound, rfl⟩ := List.mem_mapIdx.mp listed
  obtain ⟨axis, _, rfl⟩ := List.mem_map.mp member
  exact isName_generated side number axis nonempty word

/-- A generated signature with an output is well formed. -/
theorem generated_wellFormed (inputs : List Nat) (output : Nat) :
    (generated inputs [output]).WellFormed .unicode := by
  refine ⟨by simp [generated, generatedSide], ?_⟩
  rw [List.forall_mem_append]
  exact ⟨isName_of_side "i" inputs (by decide) (List.all_eq_true.mp (by decide +kernel)),
    isName_of_side "o" [output] (by decide) (List.all_eq_true.mp (by decide +kernel))⟩

/-- Names that are all different take any lengths. -/
theorem bindNames_fresh (binding pairs : Binding)
    (distinct : ((binding ++ pairs).map Prod.fst).Nodup) :
    bindNames binding pairs = .ok (binding ++ pairs) := by
  induction pairs generalizing binding with
  | nil => simp [bindNames]
  | cons pair pairs inductionHypothesis =>
    obtain ⟨name, length⟩ := pair
    have fresh : binding.lookup name = none := by
      rw [List.lookup_eq_none_iff]
      intro earlier listed
      rw [List.map_append, List.nodup_append] at distinct
      have apart := distinct.2.2 earlier.1 (List.mem_map_of_mem listed) name (by simp)
      exact bne_iff_ne.mpr apart.symm
    have regrouped : binding ++ [(name, length)] ++ pairs = binding ++ (name, length) :: pairs := by
      simp
    have rest := inductionHypothesis (binding ++ [(name, length)]) (by rwa [regrouped])
    simp [bindNames, bindName, fresh, rest]

/-- The generated names of one operand are all different. -/
theorem nodup_generatedNames (side : String) (operand rank : Nat) :
    (generatedNames side operand rank).Nodup := by
  refine List.pairwise_map.mpr (List.nodup_range.imp fun {first second} apart same => apart ?_)
  have digits : (toString first).toList = (toString second).toList := by
    simpa using congrArg String.toList same
  have numbers := congrArg (Nat.ofDigitChars 10 · 0) digits
  simpa [Nat.toString_eq_ofList_toDigits] using numbers

/-- One operand with generated names binds to every shape of at least its rank. -/
theorem bind_single (rank output : Nat) (shape : List Nat) (bound : rank ≤ shape.length) :
    ∃ binding, (generated [rank] [output]).bind [shape] = .ok binding := by
  let names := generatedNames "i" 0 rank
  let pairs : Binding := names.zip (shape.drop (shape.length - names.length))
  have count : names.length = rank := by simp [names, generatedNames]
  have distinct : (([] ++ pairs).map Prod.fst).Nodup := by
    rw [List.nil_append, List.map_fst_zip (by simp only [List.length_drop, count]; omega)]
    exact nodup_generatedNames "i" 0 rank
  have enough : ¬ shape.length < names.length := by omega
  have inputs : (generated [rank] [output]).inputs = [names] := rfl
  have bound : bindNames [] pairs = .ok pairs := bindNames_fresh [] pairs distinct
  refine ⟨pairs, ?_⟩
  simp only [bind, inputs, List.length_cons, List.length_nil, ne_eq, not_true_eq_false, if_false,
    List.zip_cons_cons, List.zip_nil_left, bindOperands, if_neg enough]
  rw [bound]
  rfl

end CoreSignature

/-- The core form of a signature is found from its text. -/
theorem Signature.core_eq (s : Signature) :
    s.core = .ok (CoreSignature.generated (s.inputs.map ArgType.rank) [s.output.rank]) := by
  rw [Signature.core, Signature.coreText, CoreSignature.read,
    CoreSignature.readWith_render CharClasses.unicode_separate _
      (CoreSignature.generated_wellFormed _ _)]
  rfl

/-- Compiling with a signature does not fail. -/
theorem Kernel.compile_signed (definition : Definition) (s : Signature) (options : Options) :
    Kernel.compile definition (some s) options = .ok ⟨definition, some s, options⟩ := by
  simp [Kernel.compile, Signature.core_eq]

/-- One argument of the declared form is handed to the definition as it is. -/
theorem Kernel.call_single (definition : Definition) (input output : ArgType) (options : Options)
    (t : Tensor) (argumentRank : t.rank = input.rank) (argumentType : t.elem = input.elem) :
    (Kernel.mk definition (some ⟨[input], output, false⟩) options).call [t] =
      definition.run options [t] >>= Signature.coerceOutput ⟨[input], output, false⟩ := by
  let s : Signature := ⟨[input], output, false⟩
  obtain ⟨binding, bound⟩ :=
    CoreSignature.bind_single input.rank output.rank t.shape (Nat.le_of_eq argumentRank.symm)
  have arguments : s.coerceInputs [t] = .ok [t] := by
    have core := s.core_eq
    simp only [s, List.map_cons, List.map_nil] at core
    simp [s, Signature.coerceInputs, core, bound, KernelError.ofCore, Signature.coerceFrom,
      Signature.coerceInput, argumentRank, Tensor.convert, argumentType]
  show (s.coerceInputs [t] >>= fun coerced => definition.run options coerced >>= s.coerceOutput) = _
  rw [arguments, Outcome.bind_ok]

/-- With one argument of the declared form and a result of the declared rank, a signature
    converts the result. -/
theorem Kernel.call_converted (definition : Definition) (input output : ArgType) (options : Options)
    (t u : Tensor) (argumentRank : t.rank = input.rank) (argumentType : t.elem = input.elem)
    (ran : definition.run options [t] = .ok (.tensor u)) (resultRank : u.rank = output.rank) :
    (Kernel.mk definition (some ⟨[input], output, false⟩) options).call [t] =
      .ok (.tensor (u.convert output.elem)) := by
  have rank : u.shape.length = output.rank := resultRank
  rw [Kernel.call_single definition input output options t argumentRank argumentType, ran]
  simp [Signature.coerceOutput, Signature.coerceForm, Value.shape, rank, Value.convert]

/-- With one argument of the declared form and a result of the declared form, a signature
    changes nothing. -/
theorem Kernel.call_signed (definition : Definition) (input output : ArgType) (options : Options)
    (t u : Tensor) (argumentRank : t.rank = input.rank) (argumentType : t.elem = input.elem)
    (ran : definition.run options [t] = .ok (.tensor u)) (resultRank : u.rank = output.rank)
    (resultType : u.elem = output.elem) :
    (Kernel.mk definition (some ⟨[input], output, false⟩) options).call [t] = .ok (.tensor u) := by
  rw [Kernel.call_converted definition input output options t u argumentRank argumentType ran
    resultRank, Tensor.convert, if_pos resultType.symm]

end LoopKernels
