import LoopKernels.Operator.Json
import LoopKernels.Proofs.Json.Record

/-!
# Stored operators

An operator is decoded from its value when its numbers fit words and its constants are
kept. Composites nest: each level of composites is four levels of arrays and objects
in the value, so a value that is nested no deeper than the limit holds no more composites
than the decoder follows.
-/

namespace LoopKernels

open Json

/-- The number fits a word, or the constant is finite and kept. -/
def Operand.storable (keeps : Float → Bool) : Operand → Bool
  | input i => isWord i
  | step i => isWord i
  | const x => x.isFinite && keeps x

variable {keeps : Float → Bool}

/-- An operand is stored under its tag. -/
theorem Operand.stores (operand : Operand) (storable : operand.storable keeps = true) :
    Stores keeps toJson ofJson? operand := by
  cases operand with
  | input i =>
    have index := stores_nat keeps i storable
    refine ⟨.obj _ (by simpa [toJson] using index.written), ?_⟩
    simp [ofJson?, toJson, tagged?, index.decodes]
  | step i =>
    have index := stores_nat keeps i storable
    refine ⟨.obj _ (by simpa [toJson] using index.written), ?_⟩
    simp [ofJson?, toJson, tagged?, index.decodes]
  | const x =>
    have kept : keeps x = true := (Bool.and_eq_true_iff.mp storable).2
    exact ⟨.obj _ (by simpa using .real _ kept), rfl⟩

namespace Operator

mutual

/-- Numbers of inputs and all operands can be stored, in the steps of steps as well. -/
def storable (keeps : Float → Bool) : Operator → Bool
  | prim _ => true
  | composite inputs steps output =>
    isWord inputs && stepsStorable keeps steps && output.storable keeps
termination_by structural op => op

/-- All steps can be stored. -/
def stepsStorable (keeps : Float → Bool) : List (Operator × List Operand) → Bool
  | [] => true
  | step :: rest => stepStorable keeps step && stepsStorable keeps rest
termination_by structural steps => steps

/-- The operator and the operands of a step can be stored. -/
def stepStorable (keeps : Float → Bool) : Operator × List Operand → Bool
  | (op, operands) => op.storable keeps && operands.all (Operand.storable keeps)
termination_by structural step => step

end

/-- Steps can be stored when each one can. -/
theorem stepsStorable_iff (steps : List (Operator × List Operand)) :
    stepsStorable keeps steps = true ↔ ∀ step ∈ steps,
      step.1.storable keeps = true ∧ step.2.all (Operand.storable keeps) = true := by
  induction steps with
  | nil => simp [stepsStorable]
  | cons step steps inductionHypothesis =>
    rw [stepsStorable, Bool.and_eq_true, inductionHypothesis, List.forall_mem_cons, stepStorable,
      Bool.and_eq_true]

/-- The steps are written one by one. -/
theorem stepsToJson_eq (steps : List (Operator × List Operand)) :
    stepsToJson steps = steps.map stepToJson :=
  eq_map_of_cons rfl (fun _ _ => rfl) steps

/-- A step is stored when its operator and its operands are. -/
theorem stores_step {operator : Json → Option Operator} (step : Operator × List Operand)
    (stored : Stores keeps toJson operator step.1)
    (storable : step.2.all (Operand.storable keeps) = true) :
    Stores keeps stepToJson (stepOfJson? operator) step := by
  obtain ⟨op, operands⟩ := step
  have args : Stores keeps (list Operand.toJson) (list? Operand.ofJson?) operands :=
    stores_list operands fun operand member =>
      operand.stores (List.all_eq_true.mp storable operand member)
  have fields : (stepToJson (op, operands)).fields? ["op", "args"] =
      some [some op.toJson, some (list Operand.toJson operands)] :=
    fields?_obj [("op", op.toJson), ("args", list Operand.toJson operands)] (by simp)
  refine ⟨.obj _ ?_, ?_⟩
  · simpa using ⟨stored.written, args.written⟩
  · simp [stepOfJson?, fields, stored.decodes, args.decodes]

/-- The operators of the steps stand four levels deeper in the value of a composite. -/
theorem readable_of_composite (inputs : Nat) (steps : List (Operator × List Operand))
    (output : Operand) (limit : Nat)
    (readable : (composite inputs steps output).toJson.readable limit = true) :
    ∀ step ∈ steps, 4 ≤ limit ∧ step.1.toJson.readable (limit - 4) = true := by
  rintro ⟨op, operands⟩ member
  simp only [toJson, Json.readable, readableMembers, readableMember, stepsToJson_eq,
    readableItems_iff, Bool.and_eq_true, bne_iff_ne, List.forall_mem_map] at readable
  have inner := readable.2.1.2.2.1.2 (op, operands) member
  simp only [stepToJson, Json.readable, readableMembers, readableMember, Bool.and_eq_true,
    bne_iff_ne] at inner
  exact ⟨by omega, inner.2.1⟩

/-- An operator is decoded when its value is nested less deep than the decoder follows.

    Induction on the operator: one level of composites costs the decoder one level, and the
    value four. -/
theorem stores (op : Operator) (storable : op.storable keeps = true) (emptyObject : Bool)
    (limit depth : Nat) (readable : op.toJson.readable limit = true) (below : limit < depth) :
    Stores keeps toJson (ofJsonWithin? emptyObject depth) op := by
  induction op using Operator.induction generalizing limit depth with
  | prim p =>
    obtain ⟨depth, rfl⟩ := Nat.exists_eq_add_of_lt below
    refine ⟨.str _, ?_⟩
    simp [toJson, ofJsonWithin?, tagged?, constant?, Primitive.ofName?_name]
  | composite inputs steps output each =>
    obtain ⟨extra, rfl⟩ := Nat.exists_eq_add_of_lt below
    simp only [Operator.storable, Bool.and_eq_true, stepsStorable_iff] at storable
    obtain ⟨⟨word, stepsStorable⟩, outputStorable⟩ := storable
    have count := stores_nat keeps inputs word
    have result := output.stores outputStorable
    have program : Stores keeps (list stepToJson)
        (list? (stepOfJson? (ofJsonWithin? emptyObject (limit + extra)))) steps := by
      refine stores_list steps fun step member => ?_
      obtain ⟨deep, inner⟩ := readable_of_composite inputs steps output limit readable step member
      obtain ⟨opStorable, operandsStorable⟩ := stepsStorable step member
      exact stores_step step (each step member opStorable _ _ inner (by omega)) operandsStorable
    let members := [("nin", ofNat inputs), ("nodes", list stepToJson steps),
      ("output", output.toJson)]
    have encoded : (composite inputs steps output).toJson = .obj [("composite", .obj members)] := by
      simp [toJson, members, stepsToJson_eq, list]
    have fields : (Json.obj members).fields? ["nin", "nodes", "output"] =
        some [some (ofNat inputs), some (list stepToJson steps), some output.toJson] :=
      fields?_obj members (by simp [members])
    refine ⟨?_, ?_⟩
    · rw [encoded]
      have inner : (Json.obj members).Written keeps :=
        .obj members (by simpa [members] using ⟨count.written, program.written, result.written⟩)
      exact .obj _ (by simpa using inner)
    · rw [encoded]
      simp [ofJsonWithin?, tagged?, compositeOfJson?, fields, count.decodes, program.decodes,
        result.decodes]

end Operator

end LoopKernels
