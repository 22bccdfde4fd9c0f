import LoopKernels.Tensor.Basic
import LoopKernels.Proofs.Shape.Numbering

/-!
# Counts and strides that are words

Forming a count or strides in words either gives the natural ones or stops at a product that is no
word. The count goes through the products of the leading axes, and the strides are the products of
the axes behind each axis; these have to be words. A product of some of the axes does not pass the
whole count while no axis is empty. So only an array without elements can have lengths that its
program cannot multiply.
-/

namespace LoopKernels

namespace Word

/-- A product is given exactly when it is a word. -/
theorem mul?_eq_some {a b product : Nat} :
    mul? a b = some product ↔ a * b < limit ∧ a * b = product := by
  by_cases fits : a * b < limit <;> simp [mul?, fits]

end Word

namespace Shape

variable {shape front back : Shape} {coord : Coord}

/-- The lengths of the leading axes, however many of them, multiply to a word. -/
def CountFits (shape : Shape) : Prop := ∀ k ≤ shape.length, count (shape.take k) < Word.limit

instance (shape : Shape) : Decidable shape.CountFits :=
  inferInstanceAs (Decidable (∀ k ≤ shape.length, count (shape.take k) < Word.limit))

/-- The lengths behind each axis multiply to a word. -/
def StridesFit (shape : Shape) : Prop :=
  ∀ axis < shape.length, count (shape.drop (axis + 1)) < Word.limit

instance (shape : Shape) : Decidable shape.StridesFit :=
  inferInstanceAs (Decidable (∀ axis < shape.length, count (shape.drop (axis + 1)) < Word.limit))

/-! ## The count -/

/-- Leading axes multiplied to a start that is a word. -/
theorem foldlM_mul?_eq_some (start : Nat) (word : start < Word.limit) (shape : Shape) (n : Nat) :
    shape.foldlM Word.mul? start = some n ↔
      (∀ k ≤ shape.length, start * count (shape.take k) < Word.limit) ∧
        start * count shape = n := by
  induction shape generalizing start with
  | nil => simpa using fun _ => word
  | cons length shape inductionHypothesis =>
    have lead : (∀ k ≤ (length :: shape).length,
        start * count ((length :: shape).take k) < Word.limit) ↔
        start * length < Word.limit ∧
          ∀ k ≤ shape.length, start * length * count (shape.take k) < Word.limit := by
      constructor
      · intro fits
        refine ⟨by simpa using fits 1 (by simp), ?_⟩
        intro k bound
        simpa [Nat.mul_assoc] using fits (k + 1) (by simpa using bound)
      · rintro ⟨-, fits⟩ k bound
        cases k with
        | zero => simpa using word
        | succ k => simpa [Nat.mul_assoc] using fits k (by simpa using bound)
    rw [List.foldlM_cons, lead, count_cons, ← Nat.mul_assoc]
    by_cases fits : start * length < Word.limit
    · rw [(Word.mul?_eq_some).mpr ⟨fits, rfl⟩]
      simpa [fits] using inductionHypothesis (start * length) fits
    · simp [Word.mul?, fits]

/-- A count in words is the count, and it fits. -/
theorem count?_eq_some {n : Nat} : count? shape = some n ↔ shape.CountFits ∧ count shape = n := by
  have multiplied := foldlM_mul?_eq_some 1 (by decide) shape n
  simpa [count?, CountFits] using multiplied

/-- The count is found exactly when the leading axes multiply to words. -/
theorem count?_eq (shape : Shape) :
    count? shape = if shape.CountFits then some (count shape) else none := by
  split
  next fits => exact count?_eq_some.mpr ⟨fits, rfl⟩
  next tooLarge =>
    cases counted : count? shape with
    | none => rfl
    | some n => exact absurd (count?_eq_some.mp counted).1 tooLarge

/-- A count that is found is a word. -/
theorem CountFits.count_lt (fits : shape.CountFits) : count shape < Word.limit := by
  simpa using fits shape.length (Nat.le_refl _)

/-- Leading axes multiply to words where all of them do. -/
theorem CountFits.of_append (fits : CountFits (front ++ back)) : front.CountFits := by
  intro k bound
  have leading := fits k (by simp; omega)
  rwa [List.take_append_of_le_length bound] at leading

/-- An axis of length one is multiplied without effect. -/
theorem countFits_append_one : CountFits (front ++ 1 :: back) ↔ CountFits (front ++ back) := by
  have same : count? (front ++ 1 :: back) = count? (front ++ back) := by
    rw [count?, count?, List.foldlM_append, List.foldlM_append]
    cases first : front.foldlM Word.mul? 1 with
    | none => rfl
    | some product =>
      obtain ⟨fits, rfl⟩ := count?_eq_some.mp first
      simp [Word.mul?, fits.count_lt]
  have fits_iff : ∀ shape : Shape, shape.CountFits ↔ (count? shape).isSome = true := by
    intro shape
    by_cases fits : shape.CountFits <;> simp [count?_eq, fits]
  rw [fits_iff, fits_iff, same]

/-- Axes of length one at the end do not matter. -/
theorem countFits_append_ones (rank : Nat) :
    CountFits (front ++ List.replicate rank 1) ↔ front.CountFits := by
  induction rank with
  | zero => simp
  | succ rank inductionHypothesis =>
    rw [List.replicate_succ, countFits_append_one, inductionHypothesis]

/-- One axis is counted when its length fits a word. -/
theorem countFits_singleton {length : Nat} : CountFits [length] ↔ length < Word.limit := by
  refine ⟨fun fits => by simpa using fits.count_lt, fun word k _ => ?_⟩
  cases k with
  | zero => exact show count [] < Word.limit by decide
  | succ k => simpa using word

/-! ## The strides -/

/-- The strides behind the first axis, and the count behind it. -/
theorem stridesFit_cons {length : Nat} :
    StridesFit (length :: shape) ↔ count shape < Word.limit ∧ shape.StridesFit := by
  constructor
  · intro fits
    refine ⟨by simpa using fits 0 (by simp), ?_⟩
    intro axis bound
    simpa using fits (axis + 1) (by simpa using bound)
  · rintro ⟨first, fits⟩ axis bound
    cases axis with
    | zero => simpa using first
    | succ axis => simpa using fits axis (by simpa using bound)

/-- One axis has stride one. -/
theorem stridesFit_singleton (length : Nat) : StridesFit [length] :=
  stridesFit_cons.mpr ⟨by decide, by simp [StridesFit]⟩

/-- The strides are found exactly when the lengths behind each axis multiply to a word. -/
theorem strides?_eq (shape : Shape) :
    strides? shape = if shape.StridesFit then some (strides shape) else none := by
  induction shape with
  | nil => simp [strides?, StridesFit]
  | cons first shape inductionHypothesis =>
    cases shape with
    | nil => simp [strides?, stridesFit_singleton]
    | cons next rest =>
      have split : StridesFit (first :: next :: rest) ↔
          next * count rest < Word.limit ∧ StridesFit (next :: rest) := by
        rw [stridesFit_cons, count_cons]
      by_cases fits : StridesFit (next :: rest)
      · rw [if_pos fits, strides_cons] at inductionHypothesis
        rw [strides?, inductionHypothesis]
        by_cases word : next * count rest < Word.limit
        · simp [split, fits, word, Word.mul?, Nat.mul_comm (count rest)]
        · simp [split, word, Word.mul?, Nat.mul_comm (count rest)]
      · rw [if_neg fits] at inductionHypothesis
        simp [strides?, inductionHypothesis, split, fits]

/-! ## Shapes without empty axes -/

/-- Leaving out axes does not raise the count of a shape without empty axes. -/
theorem count_le_of_sublist {axes : Shape} (full : 0 ∉ shape) (part : axes.Sublist shape) :
    count axes ≤ count shape := by
  induction part with
  | slnil => exact Nat.le_refl _
  | cons length part inductionHypothesis =>
    have nonempty : 0 < length := Nat.pos_of_ne_zero (List.ne_of_not_mem_cons full).symm
    rw [count_cons]
    exact Nat.le_trans (inductionHypothesis (List.not_mem_of_not_mem_cons full))
      (Nat.le_mul_of_pos_left _ nonempty)
  | cons_cons length part inductionHypothesis =>
    rw [count_cons, count_cons]
    exact Nat.mul_le_mul_left length (inductionHypothesis (List.not_mem_of_not_mem_cons full))

/-- Without an empty axis the whole count bounds the products of leading axes. -/
theorem countFits_of_full (full : 0 ∉ shape) (word : count shape < Word.limit) :
    shape.CountFits := by
  intro k _
  exact Nat.lt_of_le_of_lt (count_le_of_sublist full (List.take_sublist k shape)) word

/-- Without an empty axis the whole count bounds the strides. -/
theorem stridesFit_of_full (full : 0 ∉ shape) (word : count shape < Word.limit) :
    shape.StridesFit := by
  intro axis _
  exact Nat.lt_of_le_of_lt (count_le_of_sublist full (List.drop_sublist (axis + 1) shape)) word

/-- The strides of axes of length one are words. -/
theorem stridesFit_ones (rank : Nat) : StridesFit (List.replicate rank 1) := by
  refine stridesFit_of_full (fun zero => ?_) ?_
  · exact absurd (List.eq_of_mem_replicate zero) (by decide)
  · rw [count_ones]
    decide

/-- A shape with a coordinate has no empty axis. -/
theorem full_of_contains (inside : contains shape coord = true) : 0 ∉ shape := by
  intro empty
  have below := offset_lt_count shape coord inside
  rw [(count_eq_zero shape).mpr empty] at below
  omega

/-! ## Outcomes -/

/-- The count of a shape is given, or the program ends. -/
theorem elementCount_eq (shape : Shape) :
    shape.elementCount = if shape.CountFits then .ok shape.count else .error .overflow := by
  rw [elementCount, count?_eq]
  split <;> rfl

/-- The number of entries is the count, and it fits. -/
theorem elementCount_eq_ok {n : Nat} :
    shape.elementCount = .ok n ↔ shape.CountFits ∧ shape.count = n := by
  rw [elementCount_eq]
  by_cases fits : shape.CountFits <;> simp [fits]

/-- The coordinates of a shape are visited while a word counts them. -/
theorem walk_eq_ok {coords : List Coord} :
    shape.walk = .ok coords ↔ shape.count < Word.limit ∧ shape.coordinates = coords := by
  by_cases fits : shape.count < Word.limit <;> simp [walk, fits]

end Shape

/-- The strides of an array are given, or the program ends. -/
theorem Tensor.strides_eq (t : Tensor) :
    t.strides = if t.shape.StridesFit then .ok (Shape.strides t.shape) else .error .overflow := by
  rw [strides, Shape.strides?_eq]
  split <;> rfl

/-- An array without elements whose strides are no words. -/
def Tensor.hollow : Tensor := ⟨.i64, [0, Nat.pow 2 32, Nat.pow 2 32], .signed #[]⟩

end LoopKernels
