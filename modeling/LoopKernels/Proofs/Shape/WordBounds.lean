import LoopKernels.Proofs.Shape.Words
import Mathlib.Algebra.Order.BigOperators.Group.List
import Mathlib.Algebra.Order.Ring.Nat
import Mathlib.Data.List.DropRight

/-!
# Index arithmetic in machine words

The walks over an array form products and sums of words, and the program ends at the first that is
no word. While no axis is empty, the number of elements bounds all that is formed on the way: the
partial products of the count and the strides are counts of some of the axes and do not pass the
whole count, and the offset of a coordinate inside the shape stays below it.

An empty axis makes the whole count zero, and zero bounds nothing. The count multiplies from the
left and reaches the lengths before the first empty axis; the strides are multiplied from the right
and reach the lengths behind the last one. Whether the two walks fit is decided there, for each of
them separately.
-/

namespace LoopKernels

/-! ## Naturals that fit words -/

/-- Every number of the list is a word. -/
def FitWords (numbers : List Nat) : Prop := ∀ number ∈ numbers, number < Word.limit

instance (numbers : List Nat) : Decidable (FitWords numbers) :=
  inferInstanceAs (Decidable (∀ number ∈ numbers, number < Word.limit))

variable {numbers : List Nat}

/-- Numbers below one that fits a word fit words. -/
theorem FitWords.of_le {bound : Nat} (fits : bound < Word.limit)
    (below : ∀ number ∈ numbers, number ≤ bound) : FitWords numbers := by
  intro number listed
  exact Nat.lt_of_le_of_lt (below number listed) fits

/-- The states of a fold are the folds of the beginnings of its list. -/
theorem mem_scanl {α β : Type} {f : β → α → β} {start state : β} {entries : List α} :
    state ∈ entries.scanl f start ↔ ∃ front, front <+: entries ∧ front.foldl f start = state := by
  rw [List.mem_iff_getElem?]
  constructor
  · rintro ⟨place, found⟩
    rw [List.getElem?_scanl] at found
    split at found
    · exact ⟨entries.take place, List.take_prefix place entries, Option.some.inj found⟩
    · cases found
  · rintro ⟨front, ⟨back, rfl⟩, rfl⟩
    refine ⟨front.length, ?_⟩
    rw [List.getElem?_scanl]
    simp

/-- A partial sum is at most the sum. -/
theorem le_sum_of_mem_partialSums {sum : Nat} (formed : sum ∈ numbers.partialSums) :
    sum ≤ numbers.sum := by
  obtain ⟨front, part, rfl⟩ := mem_scanl.mp formed
  rw [← List.sum_eq_foldl]
  exact part.sublist.sum_le_sum fun _ _ => Nat.zero_le _

namespace Shape

variable {shape axes kept front back : Shape} {coord : Coord}

/-- A count fits when it is zero, and also when it is the count of some axes of a shape that fits
    and has no empty axis. -/
theorem count_fits (full : 0 ∉ kept) (fits : count kept < Word.limit)
    (part : 0 ∉ axes → axes.Sublist kept) : count axes < Word.limit := by
  by_cases empty : 0 ∈ axes
  · rw [(count_eq_zero axes).mpr empty]
    decide
  · exact Nat.lt_of_le_of_lt (count_le_of_sublist full (part empty)) fits

/-! ## Partial products of the count -/

/-- The axes before the first empty one; all axes where none is empty. -/
def beforeEmpty (shape : Shape) : Shape := shape.takeWhile (· ≠ 0)

/-- No length before the first empty axis is zero. -/
theorem zero_notMem_beforeEmpty (shape : Shape) : 0 ∉ beforeEmpty shape := by
  intro empty
  simpa using List.mem_takeWhile_imp empty

/-- Leading axes, none of them empty, stand before the first empty axis. -/
theorem prefix_beforeEmpty (leading : front <+: shape) (full : 0 ∉ front) :
    front <+: beforeEmpty shape := by
  obtain ⟨back, rfl⟩ := leading
  have passed : ∀ length ∈ front, decide (length ≠ 0) = true := by
    intro length listed
    simpa using ne_of_mem_of_not_mem listed full
  rw [beforeEmpty, List.takeWhile_append_of_pos passed]
  exact List.prefix_append front _

/-- Without an empty axis all lengths come before it. -/
theorem beforeEmpty_eq_self (full : 0 ∉ shape) : beforeEmpty shape = shape :=
  (List.takeWhile_prefix _).eq_of_length_le (prefix_beforeEmpty List.prefix_rfl full).length_le

/-- The partial products are the counts of the leading axes. -/
theorem mem_partialProds {product : Nat} :
    product ∈ shape.partialProds ↔ ∃ front, front <+: shape ∧ count front = product :=
  mem_scanl

/-- The partial products of the count fit exactly when the axes before the first empty one fit:
    they are multiplied one after the other, and from the empty axis on all products are zero. -/
theorem fitWords_partialProds_iff :
    FitWords shape.partialProds ↔ count (beforeEmpty shape) < Word.limit := by
  constructor
  · intro fit
    exact fit _ (mem_partialProds.mpr ⟨_, List.takeWhile_prefix _, rfl⟩)
  · intro before product formed
    obtain ⟨front, leading, rfl⟩ := mem_partialProds.mp formed
    refine count_fits (zero_notMem_beforeEmpty shape) before ?_
    intro full
    exact (prefix_beforeEmpty leading full).sublist

/-! ## Strides -/

/-- The axes behind the last empty one; all axes where none is empty. -/
def behindEmpty (shape : Shape) : Shape := shape.rtakeWhile (· ≠ 0)

/-- The lengths behind the last empty axis, read from the end, are those before the first. -/
theorem behindEmpty_eq_reverse (shape : Shape) :
    behindEmpty shape = (beforeEmpty shape.reverse).reverse := rfl

/-- No length behind the last empty axis is zero. -/
theorem zero_notMem_behindEmpty (shape : Shape) : 0 ∉ behindEmpty shape := by
  simpa [behindEmpty_eq_reverse] using zero_notMem_beforeEmpty shape.reverse

/-- Without an empty axis all lengths come behind it. -/
theorem behindEmpty_eq_self (full : 0 ∉ shape) : behindEmpty shape = shape := by
  rw [behindEmpty_eq_reverse, beforeEmpty_eq_self (by simpa using full), List.reverse_reverse]

/-- Trailing axes, none of them empty, stand behind the last empty axis. -/
theorem suffix_behindEmpty (trailing : back <:+ shape) (full : 0 ∉ back) :
    back <:+ behindEmpty shape := by
  rw [behindEmpty_eq_reverse, ← List.reverse_prefix, List.reverse_reverse]
  exact prefix_beforeEmpty (List.reverse_prefix.mpr trailing) (by simpa using full)

/-- A shape with an empty axis ends in its last empty axis and the axes behind that. -/
theorem zero_cons_behindEmpty_suffix (empty : 0 ∈ shape) : 0 :: behindEmpty shape <:+ shape := by
  have rest : shape.rdropWhile (· ≠ 0) ≠ [] := by
    rw [ne_eq, List.rdropWhile_eq_nil_iff]
    intro full
    simpa using full 0 empty
  have last : (shape.rdropWhile (· ≠ 0)).getLast rest = 0 := by
    simpa using List.rdropWhile_last_not _ shape rest
  have ends := List.dropLast_concat_getLast rest
  rw [last] at ends
  refine ⟨(shape.rdropWhile (· ≠ 0)).dropLast, ?_⟩
  rw [← List.singleton_append, ← List.append_assoc, ends]
  exact List.rdropWhile_append_rtakeWhile

/-- The strides are the counts behind the axes. -/
theorem mem_strides {stride : Nat} :
    stride ∈ strides shape ↔ ∃ length back, length :: back <:+ shape ∧ count back = stride := by
  induction shape with
  | nil => simp
  | cons first shape inductionHypothesis =>
    rw [strides_cons, List.mem_cons, inductionHypothesis]
    constructor
    · rintro (rfl | ⟨length, back, trailing, rfl⟩)
      · exact ⟨first, shape, List.suffix_rfl, rfl⟩
      · exact ⟨length, back, trailing.trans (List.suffix_cons first shape), rfl⟩
    · rintro ⟨length, back, trailing, rfl⟩
      rcases List.suffix_cons_iff.mp trailing with whole | later
      · obtain ⟨-, rfl⟩ := List.cons.inj whole
        exact .inl rfl
      · exact .inr ⟨length, back, later, rfl⟩

/-- The strides of a shape whose count fits do so exactly when the axes behind the last empty one
    fit: the stride of that empty axis is their count, and those before it are zero. -/
theorem fitWords_strides_iff (counted : count shape < Word.limit) :
    FitWords (strides shape) ↔ count (behindEmpty shape) < Word.limit := by
  constructor
  · intro fit
    -- The count of all axes is no stride; without an empty axis the bound on it has to serve.
    by_cases empty : 0 ∈ shape
    · exact fit _ (mem_strides.mpr ⟨0, _, zero_cons_behindEmpty_suffix empty, rfl⟩)
    · rwa [behindEmpty_eq_self empty]
  · intro behind stride formed
    obtain ⟨length, back, trailing, rfl⟩ := mem_strides.mp formed
    refine count_fits (zero_notMem_behindEmpty shape) behind ?_
    intro full
    exact (suffix_behindEmpty ((List.suffix_cons length back).trans trailing) full).sublist

/-! ## Offsets -/

/-- An offset is the sum of the indices times their steps. -/
theorem offset_eq_sum_zipWith (coord : Coord) (steps : List Nat) :
    offset coord steps = (List.zipWith (· * ·) coord steps).sum := List.sum_eq_foldl.symm

/-- What the axes contribute to the offset of a coordinate inside the shape, and the sums formed
    from it, do not pass the offset, which is below the count. -/
theorem fitWords_offset (counted : count shape < Word.limit)
    (inside : contains shape coord = true) :
    FitWords (List.zipWith (· * ·) coord (strides shape)) ∧
      FitWords (List.zipWith (· * ·) coord (strides shape)).partialSums := by
  have fits : (List.zipWith (· * ·) coord (strides shape)).sum < Word.limit := by
    rw [← offset_eq_sum_zipWith]
    exact Nat.lt_trans (offset_lt_count shape coord inside) counted
  refine ⟨.of_le fits ?_, .of_le fits ?_⟩
  · intro contribution listed
    exact List.le_sum_of_mem listed
  · intro sum formed
    exact le_sum_of_mem_partialSums formed

/-! ## When the walks fit -/

/-- A count fits when all partial products do. -/
theorem countFits_iff_partialProds : shape.CountFits ↔ FitWords shape.partialProds := by
  constructor
  · intro fits product formed
    obtain ⟨front, leading, rfl⟩ := mem_partialProds.mp formed
    have taken := fits front.length leading.length_le
    rwa [← List.prefix_iff_eq_take.mp leading] at taken
  · intro fits k _
    exact fits _ (mem_partialProds.mpr ⟨shape.take k, List.take_prefix k shape, rfl⟩)

/-- Strides fit when each one does. -/
theorem stridesFit_iff_strides : shape.StridesFit ↔ FitWords (strides shape) := by
  induction shape with
  | nil => simp [StridesFit, FitWords]
  | cons length shape inductionHypothesis =>
    rw [stridesFit_cons, inductionHypothesis, strides_cons]
    simp [FitWords]

/-- The index arithmetic of a shape whose count is a word. The partial products of the count are
    words exactly when the axes before the first empty one multiply to a word, and the strides
    exactly when the axes behind the last empty one do, so all of them are words where no axis is
    empty. For a coordinate inside the shape all products and partial sums of the offset are words.
    The count and the strides are found exactly when what they go through are words; otherwise the
    program ends. -/
theorem index_arithmetic_fits_iff (shape : Shape) (counted : count shape < Word.limit) :
    (FitWords shape.partialProds ↔ count (beforeEmpty shape) < Word.limit) ∧
    (FitWords (strides shape) ↔ count (behindEmpty shape) < Word.limit) ∧
    (0 ∉ shape → FitWords shape.partialProds ∧ FitWords (strides shape)) ∧
    (∀ coord, contains shape coord = true →
      FitWords (List.zipWith (· * ·) coord (strides shape)) ∧
      FitWords (List.zipWith (· * ·) coord (strides shape)).partialSums) ∧
    count? shape = (if FitWords shape.partialProds then some (count shape) else none) ∧
    strides? shape = (if FitWords (strides shape) then some (strides shape) else none) := by
  refine ⟨fitWords_partialProds_iff, fitWords_strides_iff counted, ?_, ?_, ?_, ?_⟩
  · intro full
    exact ⟨countFits_iff_partialProds.mp (countFits_of_full full counted),
      stridesFit_iff_strides.mp (stridesFit_of_full full counted)⟩
  · intro coord inside
    exact fitWords_offset counted inside
  · rw [count?_eq]
    simp only [countFits_iff_partialProds]
  · rw [strides?_eq]
    simp only [stridesFit_iff_strides]

/-- Lengths that fit before the empty axis and do not fit behind it, and the last coordinate of a
    shape with half as many elements as there are words. -/
theorem index_arithmetic_fits_iff_sides :
    (FitWords (List.partialProds [2 ^ 40, 0, 2 ^ 40, 2 ^ 30]) ∧
      ¬ FitWords (strides [2 ^ 40, 0, 2 ^ 40, 2 ^ 30]) ∧
      count? [2 ^ 40, 0, 2 ^ 40, 2 ^ 30] = some 0) ∧
    strides? [2 ^ 32, 1, 2 ^ 31] = some [2 ^ 31, 2 ^ 31, 1] ∧
      FitWords (List.zipWith (· * ·) [2 ^ 32 - 1, 0, 2 ^ 31 - 1]
        (strides [2 ^ 32, 1, 2 ^ 31])).partialSums := by
  obtain ⟨before, behind, -, -, counts, -⟩ :=
    index_arithmetic_fits_iff [2 ^ 40, 0, 2 ^ 40, 2 ^ 30] (by decide)
  obtain ⟨-, -, full, offsets, -, strided⟩ :=
    index_arithmetic_fits_iff [2 ^ 32, 1, 2 ^ 31] (by decide)
  have fits := before.mpr (by decide)
  refine ⟨⟨fits, ?_, ?_⟩, ?_, (offsets _ (by decide)).2⟩
  · rw [behind]
    decide
  · rw [counts, if_pos fits]
    decide
  · rw [strided, if_pos (full (by decide)).2]
    decide

-- The count passes the word on its way to zero, and so does the stride of a leading empty axis.
example : count? [2 ^ 63, 4, 0] = none ∧ strides? [0, 2 ^ 63, 4] = none := by decide

end Shape

end LoopKernels
