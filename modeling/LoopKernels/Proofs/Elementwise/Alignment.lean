import LoopKernels.Elementwise.Reference
import LoopKernels.Elementwise.Vectorized
import LoopKernels.Proofs.Outcome
import LoopKernels.Proofs.Shape.Stretching

/-!
# Inputs aligned by their patterns

The batched evaluation derives its shape from the broadcast patterns, one axis at a
time; the plain evaluation takes the common shape of the inputs and then checks the
patterns against it. `Aligned` states what the first of them accepts. It is what the
second accepts, together with two conditions that plain broadcasting does not ask
for: all inputs have one rank, and a flagged axis has length one.
-/

namespace LoopKernels

/-- The pattern of an input allows it to stretch on an axis. -/
def PatternedInput.flags (entry : PatternedInput) (axis : Nat) : Bool := entry.2.getD axis false

/-- The length of an input on an axis. -/
def PatternedInput.length (entry : PatternedInput) (axis : Nat) : Nat := entry.1.shape.getD axis 0

/-- Inputs have the rank of a shape, length one where they are flagged, and the length of the
    shape where they are not; an axis on which all are flagged has length one. -/
structure Aligned (inputs : List PatternedInput) (shape : Shape) : Prop where
  ranks : ∀ entry ∈ inputs, entry.1.rank = shape.length ∧ entry.2.length = shape.length
  flagged : ∀ entry ∈ inputs, ∀ axis, axis < shape.length → entry.flags axis = true →
    entry.length axis = 1
  unflagged : ∀ entry ∈ inputs, ∀ axis, axis < shape.length → entry.flags axis = false →
    entry.length axis = shape.getD axis 0
  free : ∀ axis, axis < shape.length → (∀ entry ∈ inputs, entry.flags axis = true) →
    shape.getD axis 0 = 1

namespace Vectorized

/-- The ranks pass the check when every input and every pattern has the common rank. -/
theorem checkRanks_eq_ok (rank number : Nat) (inputs : List PatternedInput) :
    checkRanks rank number inputs = .ok () ↔
      ∀ entry ∈ inputs, entry.1.rank = rank ∧ entry.2.length = rank := by
  induction inputs generalizing number with
  | nil => simp [checkRanks]
  | cons entry inputs inductionHypothesis =>
    obtain ⟨t, pattern⟩ := entry
    rw [checkRanks, List.forall_mem_cons, ← inductionHypothesis (number + 1)]
    by_cases agrees : t.rank = rank ∧ pattern.length = rank
    · simp [agrees]
    · have disagrees : t.rank ≠ rank ∨ pattern.length ≠ rank := by omega
      simp [disagrees, agrees]

/-- A flagged input must have length one and leaves open what the length of the output is. -/
theorem axisLength_flagged (axis number : Nat) (known : Option Nat) (entry : PatternedInput)
    (inputs : List PatternedInput) (flags : entry.flags axis = true) :
    axisLength axis number known (entry :: inputs) =
      if entry.length axis ≠ 1 then .error (.flaggedLength number axis (entry.length axis))
      else axisLength axis (number + 1) known inputs := by
  obtain ⟨t, pattern⟩ := entry
  exact if_pos flags

/-- An input that is not flagged must have the length known before it, or makes it known. -/
theorem axisLength_unflagged (axis number : Nat) (known : Option Nat) (entry : PatternedInput)
    (inputs : List PatternedInput) (flags : entry.flags axis = false) :
    axisLength axis number known (entry :: inputs) =
      if ∀ expected ∈ known, expected = entry.length axis then
        axisLength axis (number + 1) (some (entry.length axis)) inputs
      else .error (.unequalLengths number (entry.length axis) axis (known.getD 0)) := by
  obtain ⟨t, pattern⟩ := entry
  refine (if_neg (by simpa [PatternedInput.flags] using flags)).trans ?_
  cases known with
  | none => simp [PatternedInput.length]
  | some expected =>
    by_cases agrees : expected = t.shape.getD axis 0
    · simp [PatternedInput.length, agrees]
    · simp only [Option.mem_def, Option.some.injEq, forall_eq', PatternedInput.length, agrees,
        if_false, ne_eq, not_false_eq_true, if_true, Option.getD_some]

/-- The length of the output on an axis: flagged inputs have length one, the others agree on
    the length of the output, and with what is known already. Nothing known and all inputs
    flagged leaves length one. -/
theorem axisLength_eq_ok (axis number : Nat) (known : Option Nat) (inputs : List PatternedInput)
    (length : Nat) :
    axisLength axis number known inputs = .ok length ↔
      (∀ entry ∈ inputs, entry.flags axis = true → entry.length axis = 1) ∧
      (∀ entry ∈ inputs, entry.flags axis = false → entry.length axis = length) ∧
      (∀ first ∈ known, first = length) ∧
      (known = none → (∀ entry ∈ inputs, entry.flags axis = true) → length = 1) := by
  induction inputs generalizing number known with
  | nil =>
    cases known with
    | none =>
      simp only [axisLength, Option.getD_none, Except.ok.injEq]
      grind
    | some first => simp [axisLength]
  | cons entry inputs inductionHypothesis =>
    cases flags : entry.flags axis with
    | true =>
      rw [axisLength_flagged axis number known entry inputs flags]
      split
      · grind
      · rw [inductionHypothesis]
        grind
    | false =>
      rw [axisLength_unflagged axis number known entry inputs flags]
      split
      next agrees =>
        simp only [inductionHypothesis, List.forall_mem_cons, flags]
        constructor
        · rintro ⟨ones, others, first, -⟩
          have here : entry.length axis = length := first _ rfl
          exact ⟨⟨by simp, ones⟩, ⟨fun _ => here, others⟩,
            fun expected known => (agrees expected known).trans here, by simp⟩
        · rintro ⟨⟨-, ones⟩, ⟨here, others⟩, -, -⟩
          exact ⟨ones, others, by simpa using here trivial, by simp⟩
      next differs => grind

/-- The batched evaluation finds a shape exactly when its inputs are aligned to it. -/
theorem shape_eq_ok (inputs : List Tensor) (patterns : List (List Bool)) (shape : Shape)
    (inhabited : inputs ≠ []) (sameCount : inputs.length = patterns.length) :
    Vectorized.shape inputs patterns = .ok shape ↔ Aligned (inputs.zip patterns) shape := by
  obtain ⟨first, others, rfl⟩ := List.exists_cons_of_ne_nil inhabited
  obtain ⟨pattern, rest, rfl⟩ : ∃ pattern rest, patterns = pattern :: rest := by
    cases patterns with
    | nil => simp at sameCount
    | cons pattern rest => exact ⟨pattern, rest, rfl⟩
  generalize entries : (first :: others).zip (pattern :: rest) = zipped
  have member : (first, pattern) ∈ zipped := by simp [← entries]
  have common : commonRank (first :: others) (pattern :: rest) = first.rank := rfl
  simp only [Vectorized.shape, common, entries]
  rw [Outcome.check_eq_ok, checkRanks_eq_ok, Outcome.mapM_range_eq_ok _ _ _ 0]
  simp only [axisLength_eq_ok]
  constructor
  · rintro ⟨ranks, rank, each⟩
    rw [← rank] at ranks each
    exact ⟨ranks, fun entry listed axis bound => (each axis bound).1 entry listed,
      fun entry listed axis bound => (each axis bound).2.1 entry listed,
      fun axis bound => (each axis bound).2.2.2 trivial⟩
  · intro aligned
    have rank : first.rank = shape.length := (aligned.ranks _ member).1
    rw [rank]
    exact ⟨aligned.ranks, rfl, fun axis bound =>
      ⟨fun entry listed => aligned.flagged entry listed axis bound,
        fun entry listed => aligned.unflagged entry listed axis bound, by simp,
        fun _ => aligned.free axis bound⟩⟩

end Vectorized

namespace Reference

/-- An axis passes when the input does not stretch on it, or may. -/
theorem checkAxes_eq_ok (number axis : Nat) (lengths : List (Nat × Nat × Bool)) :
    checkAxes number axis lengths = .ok () ↔
      ∀ entry ∈ lengths, entry.1 = 1 → entry.2.1 ≠ 1 → entry.2.2 = true := by
  induction lengths generalizing axis with
  | nil => simp [checkAxes]
  | cons entry lengths inductionHypothesis =>
    obtain ⟨length, target, leave⟩ := entry
    rw [checkAxes, List.forall_mem_cons, ← inductionHypothesis (axis + 1)]
    by_cases refused : length = 1 ∧ target ≠ 1 ∧ ¬leave = true
    · simp [refused]
    · simp only [refused, if_false]
      grind

/-- The lengths of an input pass against the lengths of a shape of its rank. -/
theorem checkAxes_zip (number : Nat) (lengths target : Shape) (pattern : List Bool)
    (sameRank : lengths.length = target.length) (samePattern : pattern.length = target.length) :
    checkAxes number 0 (lengths.zip (target.zip pattern)) = .ok () ↔
      ∀ axis, axis < target.length → lengths.getD axis 0 = 1 → target.getD axis 0 ≠ 1 →
        pattern.getD axis false = true := by
  rw [checkAxes_eq_ok, List.forall_mem_iff_forall_getElem]
  simp only [List.length_zip, sameRank, samePattern, Nat.min_self, List.getElem_zip]
  refine forall_congr' fun axis => forall_congr' ?_
  intro bound
  simp [List.getD_eq_getElem?_getD, bound, sameRank, samePattern]

/-- For inputs of one rank, the check of the plain evaluation: patterns have this rank, and
    an input stretches only on flagged axes. -/
theorem checkInputs_eq_ok (shape : Shape) (number : Nat) (inputs : List PatternedInput)
    (sameRank : ∀ entry ∈ inputs, entry.1.rank = shape.length) :
    checkInputs shape number inputs = .ok () ↔
      ∀ entry ∈ inputs, entry.2.length = shape.length ∧
        ∀ axis, axis < shape.length → entry.length axis = 1 → shape.getD axis 0 ≠ 1 →
          entry.flags axis = true := by
  induction inputs generalizing number with
  | nil => simp [checkInputs]
  | cons entry inputs inductionHypothesis =>
    obtain ⟨t, pattern⟩ := entry
    rw [List.forall_mem_cons] at sameRank ⊢
    obtain ⟨rank, others⟩ := sameRank
    have whole : shape.drop (shape.length - t.rank) = shape := by simp [rank]
    by_cases patternRank : pattern.length = shape.length
    · have accepted : ¬ pattern.length ≠ t.rank := by simp [patternRank, rank]
      simp only [checkInputs, if_neg accepted, whole]
      rw [Outcome.check_eq_ok, inductionHypothesis _ others,
        checkAxes_zip number t.shape shape pattern rank patternRank]
      exact and_congr_left fun _ => (and_iff_right patternRank).symm
    · have refused : pattern.length ≠ t.rank := by simpa [rank] using patternRank
      simp only [checkInputs, if_pos refused]
      simp [patternRank]

end Reference

/-- Aligned inputs are those whose common shape passes the plain check, which have one rank
    and length one on every flagged axis.

    On an axis, the lengths of the inputs that are not flagged are the length of the common
    shape: one of them stretches only if its length is one and the common length is not, and
    that is what the check refuses. -/
theorem aligned_iff (inputs : List PatternedInput) (shape : Shape) (inhabited : inputs ≠ []) :
    Aligned inputs shape ↔
      (∀ entry ∈ inputs, entry.1.rank = shape.length) ∧
      Shape.broadcast? (inputs.map fun entry => entry.1.shape) = some shape ∧
      Reference.checkInputs shape 0 inputs = .ok () ∧
      ∀ entry ∈ inputs, ∀ axis, axis < shape.length → entry.flags axis = true →
        entry.length axis = 1 := by
  have someShape : inputs.map (fun entry => entry.1.shape) ≠ [] := by simpa using inhabited
  constructor
  · intro aligned
    have ranks : ∀ entry ∈ inputs, entry.1.rank = shape.length :=
      fun entry listed => (aligned.ranks entry listed).1
    refine ⟨ranks, ?_, ?_, aligned.flagged⟩
    · refine (Shape.broadcast?_sameRank _ shape.length shape someShape
        (List.forall_mem_map.mpr ranks)).mpr ⟨rfl, ?_, fun axis bound => ?_⟩
      · rw [List.forall_mem_map]
        refine fun entry listed => ⟨ranks entry listed, ?_⟩
        intro axis bound
        cases flags : entry.flags axis with
        | true => exact .inl (aligned.flagged entry listed axis bound flags)
        | false => exact .inr (aligned.unflagged entry listed axis bound flags)
      · by_cases all : ∀ entry ∈ inputs, entry.flags axis = true
        · exact .inl (aligned.free axis bound all)
        · obtain ⟨entry, listed, flags⟩ : ∃ entry ∈ inputs, entry.flags axis = false := by
            simpa using all
          exact .inr ⟨entry.1.shape, List.mem_map_of_mem listed,
            (aligned.unflagged entry listed axis bound flags).symm⟩
    · rw [Reference.checkInputs_eq_ok shape 0 inputs ranks]
      refine fun entry listed => ⟨(aligned.ranks entry listed).2, ?_⟩
      intro axis bound one longer
      cases flags : entry.flags axis with
      | true => rfl
      | false =>
        have same := aligned.unflagged entry listed axis bound flags
        exact absurd (same.symm.trans one) longer
  · rintro ⟨ranks, common, checked, flagged⟩
    rw [Reference.checkInputs_eq_ok shape 0 inputs ranks] at checked
    obtain ⟨-, fits, source⟩ := (Shape.broadcast?_sameRank _ shape.length shape someShape
      (List.forall_mem_map.mpr ranks)).mp common
    rw [List.forall_mem_map] at fits
    refine ⟨fun entry listed => ⟨ranks entry listed, (checked entry listed).1⟩, flagged, ?_, ?_⟩
    · intro entry listed axis bound flags
      rcases (fits entry listed).2 axis bound with one | same
      · by_cases longer : shape.getD axis 0 = 1
        · exact one.trans longer.symm
        · have leave := (checked entry listed).2 axis bound one longer
          simp [flags] at leave
      · exact same
    · intro axis bound all
      rcases source axis bound with one | ⟨_, listed, same⟩
      · exact one
      · obtain ⟨entry, member, rfl⟩ := List.mem_map.mp listed
        exact same.trans (flagged entry member axis bound (all entry member))

/-- The shapes of inputs are not changed by pairing them with patterns. -/
theorem map_shape_zip (inputs : List Tensor) (patterns : List (List Bool))
    (sameCount : inputs.length = patterns.length) :
    (inputs.zip patterns).map (fun entry => entry.1.shape) = inputs.map Tensor.shape := by
  have firsts : (inputs.zip patterns).map Prod.fst = inputs :=
    List.map_fst_zip (Nat.le_of_eq sameCount)
  conv => rhs; rw [← firsts]
  rw [List.map_map]
  rfl

/-- Where there is a pattern there is an input. -/
theorem inputs_ne_nil {inputs : List Tensor} {patterns : List (List Bool)}
    (sameCount : inputs.length = patterns.length) (inhabited : patterns ≠ []) : inputs ≠ [] := by
  rwa [← List.length_pos_iff, sameCount, List.length_pos_iff]

/-- Where there is a pattern there is an input with it. -/
theorem zip_ne_nil (inputs : List Tensor) (patterns : List (List Bool))
    (sameCount : inputs.length = patterns.length) (inhabited : patterns ≠ []) :
    inputs.zip patterns ≠ [] := by
  rw [← List.length_pos_iff] at inhabited ⊢
  rwa [List.length_zip, sameCount, Nat.min_self]

/-- Aligned inputs stretch to the shape. -/
theorem Aligned.stretches (inputs : List Tensor) (patterns : List (List Bool)) (shape : Shape)
    (sameCount : inputs.length = patterns.length) (aligned : Aligned (inputs.zip patterns) shape)
    (t : Tensor) (listed : t ∈ inputs) : (Shape.stretch? t.shape shape).isSome = true := by
  have inhabited : inputs.zip patterns ≠ [] := by
    refine zip_ne_nil inputs patterns sameCount (List.length_pos_iff.mp ?_)
    rw [← sameCount]
    exact List.length_pos_of_mem listed
  have common := ((aligned_iff _ shape inhabited).mp aligned).2.1
  rw [map_shape_zip inputs patterns sameCount] at common
  exact Shape.stretch?_of_broadcast? _ shape t.shape common (List.mem_map_of_mem listed)

end LoopKernels
