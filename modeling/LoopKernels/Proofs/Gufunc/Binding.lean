import LoopKernels.Gufunc.Binding
import LoopKernels.Proofs.Outcome

/-!
# What can be bound

A name keeps the length of its first place, and every later place is checked against
it. So binding succeeds exactly when no name stands at two places of different lengths,
and the binding then holds what these places say and nothing else. That does not depend
on the order in which the places are visited; the induction only carries along that the
lengths bound so far do not contradict each other.
-/

namespace LoopKernels.CoreSignature

/-- No name is given two lengths. -/
def Consistent (places : List (String × Nat)) : Prop :=
  ∀ first ∈ places, ∀ second ∈ places, first.1 = second.1 → first.2 = second.2

/-- The names of an operand with the lengths of its last axes. -/
def operandPlaces (operand : List String × List Nat) : List (String × Nat) :=
  operand.1.zip (operand.2.drop (operand.2.length - operand.1.length))

/-- Fewer places are still consistent. -/
theorem Consistent.of_subset {places others : List (String × Nat)} (consistent : Consistent others)
    (subset : ∀ place ∈ places, place ∈ others) : Consistent places :=
  fun first listed second member same =>
    consistent first (subset first listed) second (subset second member) same

/-- Only the places themselves matter, not their order. -/
theorem consistent_congr {places others : List (String × Nat)}
    (same : ∀ place, place ∈ places ↔ place ∈ others) : Consistent places ↔ Consistent others :=
  ⟨fun holds => holds.of_subset fun place listed => (same place).mpr listed,
    fun holds => holds.of_subset fun place listed => (same place).mp listed⟩

/-- A length that is found for a name was bound to it. -/
theorem mem_of_lookup (binding : Binding) (name : String) (length : Nat)
    (found : binding.lookup name = some length) : (name, length) ∈ binding := by
  induction binding with
  | nil => simp at found
  | cons entry binding inductionHypothesis =>
    obtain ⟨key, value⟩ := entry
    by_cases same : name = key
    · subst same
      obtain rfl : value = length := by simpa using found
      exact List.mem_cons_self
    · rw [List.lookup_cons, beq_false_of_ne same] at found
      exact List.mem_cons_of_mem _ (inductionHypothesis found)

/-- Binding one name: it succeeds exactly when the length contradicts none that is bound, and
    adds the place unless it is there already. -/
theorem bindName_eq_ok (binding : Binding) (consistent : Consistent binding) (name : String)
    (length : Nat) :
    ((∃ extended, bindName binding name length = .ok extended) ↔
      Consistent ((name, length) :: binding)) ∧
    ∀ extended, bindName binding name length = .ok extended →
      ∀ place, place ∈ extended ↔ place ∈ (name, length) :: binding := by
  cases found : binding.lookup name with
  | some first =>
    have bound := mem_of_lookup binding name first found
    by_cases same : first = length
    · subst same
      have present : ∀ place, place ∈ (name, first) :: binding ↔ place ∈ binding := by
        intro place
        rw [List.mem_cons, or_iff_right_of_imp]
        rintro rfl
        exact bound
      have kept : bindName binding name first = .ok binding := by simp [bindName, found]
      refine ⟨⟨fun _ => consistent.of_subset fun place listed => (present place).mp listed,
        fun _ => ⟨binding, kept⟩⟩, ?_⟩
      intro extended step place
      obtain rfl := Except.ok.inj (kept.symm.trans step)
      exact (present place).symm
    · have refused : bindName binding name length = .error (.inconsistent name first length) := by
        simp [bindName, found, same]
      refine ⟨⟨fun ⟨_, step⟩ => ?_, fun clash => ?_⟩, fun _ step => ?_⟩
      · simp [refused] at step
      · exact absurd (clash _ (List.mem_cons_of_mem _ bound) _ List.mem_cons_self rfl) same
      · simp [refused] at step
  | none =>
    have fresh : ∀ place ∈ binding, place.1 ≠ name := by
      intro place listed same
      have apart := List.lookup_eq_none_iff.mp found place listed
      simp [same] at apart
    have added : bindName binding name length = .ok (binding ++ [(name, length)]) := by
      simp [bindName, found]
    refine ⟨⟨fun _ => ?_, fun _ => ⟨_, added⟩⟩, ?_⟩
    · intro first listed second member same
      rcases List.mem_cons.mp listed with rfl | earlier <;>
        rcases List.mem_cons.mp member with rfl | later
      · rfl
      · exact absurd same.symm (fresh second later)
      · exact absurd same (fresh first earlier)
      · exact consistent first earlier second later same
    · intro extended step place
      obtain rfl := Except.ok.inj (added.symm.trans step)
      simp [or_comm]

/-- Binding the names of an operand, place after place. -/
theorem bindNames_eq_ok (binding : Binding) (consistent : Consistent binding)
    (places : List (String × Nat)) :
    ((∃ extended, bindNames binding places = .ok extended) ↔ Consistent (binding ++ places)) ∧
    ∀ extended, bindNames binding places = .ok extended →
      ∀ place, place ∈ extended ↔ place ∈ binding ++ places := by
  induction places generalizing binding with
  | nil => simpa [bindNames] using consistent
  | cons place places inductionHypothesis =>
    obtain ⟨name, length⟩ := place
    obtain ⟨first, members⟩ := bindName_eq_ok binding consistent name length
    cases step : bindName binding name length with
    | error e =>
      have clash : ¬ Consistent ((name, length) :: binding) := by
        rw [← first]
        simp [step]
      have spread : ¬ Consistent (binding ++ (name, length) :: places) := fun whole =>
        clash (whole.of_subset (by simp +contextual))
      simp [bindNames, step, spread]
    | ok extended =>
      have same := members extended step
      have kept : Consistent extended :=
        (first.mp ⟨extended, step⟩).of_subset fun other listed => (same other).mp listed
      obtain ⟨rest, listed⟩ := inductionHypothesis extended kept
      have regroup : ∀ other, other ∈ extended ++ places ↔
          other ∈ binding ++ (name, length) :: places := by
        intro other
        simp only [List.mem_append, same, List.mem_cons, or_assoc, or_left_comm]
      have unfolded : bindNames binding ((name, length) :: places) = bindNames extended places := by
        simp [bindNames, step]
      rw [unfolded]
      exact ⟨rest.trans (consistent_congr regroup), fun final bound other =>
        (listed final bound other).trans (regroup other)⟩

/-- Binding operand after operand: every shape has enough axes and no name stands at two places
    of different lengths. -/
theorem bindOperands_eq_ok (s : CoreSignature) (number : Nat) (binding : Binding)
    (consistent : Consistent binding) (operands : List (List String × List Nat)) :
    ((∃ extended, s.bindOperands number binding operands = .ok extended) ↔
      (∀ operand ∈ operands, operand.1.length ≤ operand.2.length) ∧
        Consistent (binding ++ operands.flatMap operandPlaces)) ∧
    ∀ extended, s.bindOperands number binding operands = .ok extended →
      ∀ place, place ∈ extended ↔ place ∈ binding ++ operands.flatMap operandPlaces := by
  induction operands generalizing number binding with
  | nil => simpa [bindOperands] using consistent
  | cons operand operands inductionHypothesis =>
    obtain ⟨names, shape⟩ := operand
    by_cases short : shape.length < names.length
    · have refused : ¬ names.length ≤ shape.length := Nat.not_le_of_lt short
      simp [bindOperands, short, refused]
    · obtain ⟨first, members⟩ := bindNames_eq_ok binding consistent (operandPlaces (names, shape))
      have enough : names.length ≤ shape.length := Nat.le_of_not_lt short
      have unfolded : s.bindOperands number binding ((names, shape) :: operands) =
          (bindNames binding (operandPlaces (names, shape)) >>=
            fun extended => s.bindOperands (number + 1) extended operands) := by
        simp [bindOperands, short, operandPlaces]
      rw [unfolded]
      cases step : bindNames binding (operandPlaces (names, shape)) with
      | error e =>
        have clash : ¬ Consistent (binding ++ operandPlaces (names, shape)) := by
          rw [← first]
          simp [step]
        have spread : ¬ Consistent (binding ++
            ((names, shape) :: operands).flatMap operandPlaces) := fun whole =>
          clash (whole.of_subset (by simp +contextual [or_imp]))
        simp only [Outcome.bind_error, reduceCtorEq, exists_false, false_iff, false_imp_iff,
          implies_true, and_true]
        exact fun both => spread both.2
      | ok extended =>
        have same := members extended step
        have kept : Consistent extended :=
          (first.mp ⟨extended, step⟩).of_subset fun other listed => (same other).mp listed
        obtain ⟨rest, listed⟩ := inductionHypothesis (number + 1) extended kept
        have regroup : ∀ other, other ∈ extended ++ operands.flatMap operandPlaces ↔
            other ∈ binding ++ ((names, shape) :: operands).flatMap operandPlaces := by
          intro other
          simp only [List.mem_append, same, List.flatMap_cons, or_assoc]
        rw [Outcome.bind_ok, List.forall_mem_cons]
        refine ⟨rest.trans ?_, fun final bound other =>
          (listed final bound other).trans (regroup other)⟩
        rw [consistent_congr regroup]
        simp [enough]

/-- Shapes can be bound exactly when there is one for each input, each has enough axes, and no
    name stands at two places of different lengths. -/
theorem exists_bind_iff (s : CoreSignature) (shapes : List (List Nat)) :
    (∃ binding, s.bind shapes = .ok binding) ↔
      shapes.length = s.inputs.length ∧
      (∀ operand ∈ s.inputs.zip shapes, operand.1.length ≤ operand.2.length) ∧
      Consistent ((s.inputs.zip shapes).flatMap operandPlaces) := by
  by_cases count : shapes.length = s.inputs.length
  · simp only [bind, count, ne_eq, not_true_eq_false, if_false, true_and]
    have empty : Consistent [] := by simp [Consistent]
    simpa using (bindOperands_eq_ok s 0 [] empty (s.inputs.zip shapes)).1
  · simp [bind, count]

end LoopKernels.CoreSignature
