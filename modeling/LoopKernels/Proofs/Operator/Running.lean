import LoopKernels.Operator.Eval
import LoopKernels.Proofs.Outcome
import LoopKernels.Proofs.Scalar.Integers

/-!
# Operators that can be evaluated

Whether an operator can be evaluated does not depend on the values of its operands, only
on which of them are floats: a step of a composite gives a value of the element type of
the whole evaluation, and a constant is a float. So it can be decided in advance, by
following the steps with a flag in place of each value. `runs` is that decision; it goes
into the steps of steps, where operands may be missing, too few or of the wrong kind.
-/

namespace LoopKernels

/-- Whether the value of an operand is a float, if the operand is defined: the inputs are given
    by their flags, and the steps so far by their number. -/
def Operand.float? (e : ElemType) (inputs : List Bool) (steps : Nat) : Operand → Option Bool
  | input i => inputs[i]?
  | step i => if i < steps then some e.isFloat else none
  | const _ => some true

namespace Operator

/-- The operator takes operands of these kinds: as many as its arity asks for, at least one, and
    no floats if it is bitwise. -/
def takes (op : Operator) (floats : List Bool) (e : ElemType) : Bool :=
  op.arity.accepts floats.length && !(op.isBitwise && (e.isFloat || floats.any id)) &&
    !floats.isEmpty

mutual

/-- The operator can be evaluated on operands of these kinds: it takes them, and so does each
    step those that it names. -/
def runs : Operator → List Bool → ElemType → Bool
  | prim p, floats, e => (prim p).takes floats e
  | composite inputs steps output, floats, e =>
    (composite inputs steps output).takes floats e && stepsRun steps floats 0 e &&
      (output.float? e floats steps.length).isSome
termination_by structural op => op

/-- The steps can be evaluated after the given number of steps. -/
def stepsRun : List (Operator × List Operand) → List Bool → Nat → ElemType → Bool
  | [], _, _, _ => true
  | step :: rest, floats, before, e =>
    stepRuns step floats before e && stepsRun rest floats (before + 1) e
termination_by structural steps => steps

/-- The operands of a step are defined, and its operator runs on them. -/
def stepRuns : Operator × List Operand → List Bool → Nat → ElemType → Bool
  | (op, operands), floats, before, e =>
    match operands.mapM (Operand.float? e floats before) with
    | some kinds => op.runs kinds e
    | none => false
termination_by structural step => step

end

end Operator

variable {e : ElemType}

/-- A converted scalar is a float when the target is. -/
theorem Scalar.isFloat_cast (s : Scalar) (e : ElemType) : (s.cast e).isFloat = e.isFloat := by
  cases e <;> rfl

namespace Primitive

/-- A fold whose steps give values of an element type gives one. -/
theorem isFloat_foldOperands (step : Scalar → Scalar → Scalar)
    (each : ∀ a b, (step a b).isFloat = e.isFloat) (first : Scalar) (rest : List Scalar) :
    (foldOperands e step first rest).isFloat = e.isFloat := by
  rw [foldOperands]
  have start := first.isFloat_cast e
  generalize first.cast e = acc at start ⊢
  induction rest generalizing acc with
  | nil => exact start
  | cons value rest inductionHypothesis => exact inductionHypothesis _ (each acc value)

/-- A primitive operator gives a value of the element type. -/
theorem isFloat_evalOn (p : Primitive) (first : Scalar) (rest : List Scalar) :
    (p.evalOn e first rest).isFloat = e.isFloat := by
  have rule (r : Rule) (a b : Scalar) : (r.apply e a b).isFloat = e.isFloat :=
    Scalar.isFloat_cast _ e
  have product (a b : Scalar) : (Scalar.mulWithoutZeros e a b).isFloat = e.isFloat := by
    unfold Scalar.mulWithoutZeros
    split
    · exact Scalar.isFloat_cast b e
    · split
      · exact Scalar.isFloat_cast a e
      · exact rule .mul a b
  have chosen (a b : Scalar) : (greater e a b).isFloat = e.isFloat ∧
      (lesser e a b).isFloat = e.isFloat := by
    unfold greater lesser
    constructor <;> split <;> try split
    all_goals exact Scalar.isFloat_cast _ e
  cases p with
  | add => exact isFloat_foldOperands _ (rule .add) first rest
  | mul => exact isFloat_foldOperands _ (rule .mul) first rest
  | and => exact isFloat_foldOperands _ (rule .and) first rest
  | or => exact isFloat_foldOperands _ (rule .or) first rest
  | xor => exact isFloat_foldOperands _ (rule .xor) first rest
  | mulWithoutZeros => exact isFloat_foldOperands _ product first rest
  | maximum => exact isFloat_foldOperands _ (fun a b => (chosen a b).1) first rest
  | minimum => exact isFloat_foldOperands _ (fun a b => (chosen a b).2) first rest
  | neg => cases first <;> exact Scalar.isFloat_cast _ e
  | abs => cases first <;> exact Scalar.isFloat_cast _ e
  | pow =>
    simp only [evalOn, Scalar.power]
    split
    · exact Scalar.isFloat_cast _ e
    · split <;> exact Scalar.isFloat_cast _ e
  | _ => exact Scalar.isFloat_cast _ e

end Primitive

/-- The flag of an operand is that of the scalar it denotes. -/
theorem Operand.float?_eq (inputs values : List Scalar)
    (typed : ∀ value ∈ values, value.isFloat = e.isFloat) (operand : Operand) :
    operand.float? e (inputs.map Scalar.isFloat) values.length =
      (operand.resolve inputs values).toOption.map Scalar.isFloat := by
  cases operand with
  | input i =>
    simp only [float?, resolve, List.getElem?_map]
    cases inputs[i]? <;> rfl
  | step i =>
    simp only [float?, resolve]
    by_cases bound : i < values.length
    · have flag := typed values[i] (List.getElem_mem bound)
      simp [bound, Except.toOption, flag]
    · simp [bound, Except.toOption]
  | const x => rfl

/-- The flags of several operands are those of the scalars they denote. -/
theorem Operand.mapM_float? (inputs values : List Scalar)
    (typed : ∀ value ∈ values, value.isFloat = e.isFloat) (operands : List Operand) :
    operands.mapM (Operand.float? e (inputs.map Scalar.isFloat) values.length) =
      (operands.mapM (Operand.resolve inputs values)).toOption.map (List.map Scalar.isFloat) := by
  induction operands with
  | nil => rfl
  | cons operand operands inductionHypothesis =>
    rw [List.mapM_cons, List.mapM_cons, operand.float?_eq inputs values typed, inductionHypothesis]
    cases operand.resolve inputs values with
    | error _ => rfl
    | ok first => cases operands.mapM (Operand.resolve inputs values) <;> rfl

namespace Operator

/-- The refusals that precede an evaluation pass exactly when the operator takes the kinds of its
    operands. -/
theorem exists_operands?_iff (op : Operator) (args : List Scalar) :
    (∃ split, op.operands? args e = .ok split) ↔ op.takes (args.map Scalar.isFloat) e = true := by
  have floats : (args.map Scalar.isFloat).any id = args.any Scalar.isFloat := by
    rw [List.any_map]
    rfl
  simp only [operands?, takes, checkArity, List.length_map, floats, List.isEmpty_map]
  cases op.arity.accepts args.length with
  | false => simp
  | true =>
    cases op.isBitwise && (e.isFloat || args.any Scalar.isFloat) with
    | true => simp
    | false => cases args <;> simp

/-- What is claimed of an operator: it can be evaluated exactly on the kinds of operands on which
    it runs, and gives a value of the element type. -/
def Decided (op : Operator) (e : ElemType) : Prop :=
  ∀ args, ((∃ value, op.eval args e = .ok value) ↔ op.runs (args.map Scalar.isFloat) e = true) ∧
    ∀ value, op.eval args e = .ok value → value.isFloat = e.isFloat

/-- One step, after steps that gave values of the element type. -/
theorem evalStep_decided (step : Operator × List Operand) (decided : step.1.Decided e)
    (inputs values : List Scalar) (typed : ∀ value ∈ values, value.isFloat = e.isFloat) :
    ((∃ value, evalStep step inputs values e = .ok value) ↔
      stepRuns step (inputs.map Scalar.isFloat) values.length e = true) ∧
    ∀ value, evalStep step inputs values e = .ok value → value.isFloat = e.isFloat := by
  obtain ⟨op, operands⟩ := step
  simp only [evalStep, stepRuns, Operand.mapM_float? inputs values typed]
  cases operands.mapM (Operand.resolve inputs values) with
  | error _ => simp [Except.toOption]
  | ok args => exact decided args

/-- The steps, one after the other. -/
theorem evalSteps_decided (steps : List (Operator × List Operand))
    (decided : ∀ step ∈ steps, step.1.Decided e) (inputs values : List Scalar)
    (typed : ∀ value ∈ values, value.isFloat = e.isFloat) :
    ((∃ final, evalSteps steps inputs values e = .ok final) ↔
      stepsRun steps (inputs.map Scalar.isFloat) values.length e = true) ∧
    ∀ final, evalSteps steps inputs values e = .ok final →
      final.length = values.length + steps.length ∧
        ∀ value ∈ final, value.isFloat = e.isFloat := by
  induction steps generalizing values with
  | nil =>
    simp only [evalSteps, stepsRun, Outcome.pure_ok, Except.ok.injEq]
    exact ⟨by simp, fun final same => same ▸ ⟨rfl, typed⟩⟩
  | cons step steps inductionHypothesis =>
    rw [List.forall_mem_cons] at decided
    obtain ⟨succeeds, gives⟩ := evalStep_decided step decided.1 inputs values typed
    simp only [evalSteps, stepsRun, Bool.and_eq_true, ← succeeds]
    cases first : evalStep step inputs values e with
    | error _ => simp
    | ok value =>
      have extended : ∀ other ∈ values ++ [value], other.isFloat = e.isFloat := by
        rw [List.forall_mem_append]
        exact ⟨typed, by simpa using gives value first⟩
      obtain ⟨rest, final⟩ := inductionHypothesis decided.2 (values ++ [value]) extended
      rw [List.length_append, List.length_singleton] at rest final
      constructor
      · simpa using rest
      · intro listed computed
        obtain ⟨count, kinds⟩ := final listed computed
        exact ⟨by simpa [Nat.add_assoc, Nat.add_comm 1] using count, kinds⟩

/-- Evaluation succeeds exactly on the kinds of operands on which the operator runs. -/
theorem decided (op : Operator) (e : ElemType) : op.Decided e := by
  induction op using Operator.induction with
  | prim p =>
    intro args
    rw [runs, ← exists_operands?_iff]
    simp only [eval]
    cases (prim p).operands? args e with
    | error _ => simp
    | ok split =>
      constructor
      · simp
      · intro value computed
        obtain rfl := Except.ok.inj computed
        exact p.isFloat_evalOn split.1 split.2
  | composite inputs steps output each =>
    intro args
    obtain ⟨program, final⟩ := evalSteps_decided steps each args [] (by simp)
    simp only [runs, Bool.and_eq_true, ← exists_operands?_iff, eval]
    rw [List.length_nil] at program
    rw [← program]
    cases (composite inputs steps output).operands? args e with
    | error _ => simp
    | ok split =>
      cases ran : evalSteps steps args [] e with
      | error _ => simp
      | ok values =>
        obtain ⟨count, typed⟩ := final values ran
        rw [List.length_nil, Nat.zero_add] at count
        have result := output.float?_eq args values typed
        rw [count] at result
        simp only [Outcome.bind_ok, result]
        cases output.resolve args values with
        | error _ => simp [Except.toOption]
        | ok value =>
          constructor
          · simp [Except.toOption]
          · intro given computed
            obtain rfl := Except.ok.inj computed
            exact Scalar.isFloat_cast value e

/-- A primitive operator runs on every list of operands that it takes. -/
theorem runs_prim (p : Primitive) (floats : List Bool) (e : ElemType)
    (accepted : p.arity.accepts floats.length = true)
    (whole : (p.isBitwise && (e.isFloat || floats.any id)) = false) :
    (prim p).runs floats e = true := by
  have some : floats ≠ [] := by
    rintro rfl
    cases p <;> simp [Primitive.arity, Arity.accepts] at accepted
  simp [runs, takes, arity, isBitwise, accepted, whole, some]

end Operator

end LoopKernels
