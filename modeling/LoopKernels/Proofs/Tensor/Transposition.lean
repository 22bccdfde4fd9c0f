import LoopKernels.Proofs.Tensor.Representation
import Mathlib.Algebra.BigOperators.Group.List.Basic
import Mathlib.Data.List.Perm.Subperm
import Mathlib.Data.List.Range

/-!
# Transposed arrays

The check on the listed axes passes for the permutations of the axes. The axes in their order
leave the array as it is; for every other permutation the strides of the array are formed, and they
must be words. The entry of the new shape at a place is the length of the axis listed there, and the
element at a coordinate is the one whose entry on each listed axis is the entry at the place where
the axis is listed. Nothing is lost: the number of elements stays.
-/

namespace LoopKernels.Tensor

variable {order : List Nat} {rank : Nat}

/-- The list names every axis of an array once. -/
def IsPermutation (order : List Nat) (rank : Nat) : Prop :=
  order.length = rank ∧ (∀ axis ∈ order, axis < rank) ∧ order.Nodup

instance (order : List Nat) (rank : Nat) : Decidable (IsPermutation order rank) :=
  inferInstanceAs (Decidable (_ ∧ _ ∧ _))

/-- The check passes for distinct axes that exist and were not seen before.

    Induction on the listed axes; the flag of the first one is set for the rest. -/
theorem eachNew_iff (seen : List Bool) (order : List Nat) :
    eachNew seen order = true ↔
      (∀ axis ∈ order, axis < seen.length ∧ seen.getD axis false = false) ∧ order.Nodup := by
  induction order generalizing seen with
  | nil => simp [eachNew]
  | cons axis order inductionHypothesis =>
    rw [eachNew]
    split
    next repeated =>
      refine iff_of_false Bool.false_ne_true ?_
      rintro ⟨each, -⟩
      obtain ⟨bound, unseen⟩ := each axis List.mem_cons_self
      rcases repeated with beyond | flagged
      · omega
      · rw [unseen] at flagged
        cases flagged
    next fresh =>
      obtain ⟨bound, unseen⟩ : axis < seen.length ∧ seen.getD axis false = false := by
        simpa using fresh
      have flags : ∀ other, (seen.set axis true).getD other false = false ↔
          other ≠ axis ∧ seen.getD other false = false := by
        intro other
        by_cases same : axis = other
        · subst same
          simp [bound]
        · simp [List.getD_eq_getElem?_getD, List.getElem?_set_ne same, Ne.symm same]
      rw [inductionHypothesis, List.forall_mem_cons, List.nodup_cons]
      simp only [List.length_set, flags]
      constructor
      · rintro ⟨each, distinct⟩
        refine ⟨⟨⟨bound, unseen⟩, fun other listed => ?_⟩, fun listed => ?_, distinct⟩
        · exact ⟨(each other listed).1, (each other listed).2.2⟩
        · exact (each axis listed).2.1 rfl
      · rintro ⟨⟨-, each⟩, once, distinct⟩
        refine ⟨fun other listed => ⟨(each other listed).1, ?_, (each other listed).2⟩, distinct⟩
        rintro rfl
        exact once listed

/-- A list is refused exactly when it is no permutation of the axes. -/
theorem refused_iff :
    (¬ eachNew (List.replicate rank false) order = true ∨ order.length ≠ rank) ↔
      ¬ IsPermutation order rank := by
  have flags : ∀ axis, (List.replicate rank false).getD axis false = false := by
    intro axis
    by_cases bound : axis < rank <;> simp [bound]
  rw [← not_and_or, not_iff_not, eachNew_iff, IsPermutation]
  simp only [List.length_replicate, flags, and_true]
  exact and_comm

/-- The axes stand in their order, or the strides of the shape are words. -/
def TransposeFits (shape : Shape) (order : List Nat) : Prop :=
  order = List.range shape.length ∨ shape.StridesFit

instance (shape : Shape) (order : List Nat) : Decidable (TransposeFits shape order) :=
  inferInstanceAs (Decidable (_ ∨ _))

/-- The axes are in order when they are listed from the first to the last. -/
theorem inOrder_iff : inOrder order = true ↔ order = List.range order.length := beq_iff_eq

/-- The coordinate that a permutation takes to the given one: its entry on an axis is found where
    the axis is listed. -/
def unpick (order : List Nat) (coord : Coord) : Coord :=
  (List.range order.length).map fun axis => coord.getD (order.idxOf axis) 0

/-- A picked entry is the one at its place. -/
theorem getD_pick (xs : List Nat) (place : Nat) (bound : place < order.length) :
    (pick xs order).getD place 0 = xs.getD (order.getD place 0) 0 := by
  simp [pick, bound]

/-- An unpicked entry is the one where its axis is listed. -/
theorem getD_unpick (coord : Coord) (axis : Nat) (bound : axis < order.length) :
    (unpick order coord).getD axis 0 = coord.getD (order.idxOf axis) 0 := by
  simp [unpick, bound]

/-- The first place is picked first. -/
theorem pick_cons (xs : List Nat) (place : Nat) (places : List Nat) :
    pick xs (place :: places) = xs.getD place 0 :: pick xs places := rfl

/-- The entries at some places, then those at others. -/
theorem pick_append (xs front back : List Nat) :
    pick xs (front ++ back) = pick xs front ++ pick xs back :=
  List.map_append

/-- The entries of a coordinate at some axes lie inside the lengths of these axes. -/
theorem contains_pick (shape : Shape) (coord : Coord) (inside : Shape.contains shape coord = true)
    (places : List Nat) (bounded : ∀ place ∈ places, place < shape.length) :
    Shape.contains (pick shape places) (pick coord places) = true := by
  rw [Shape.contains_iff_get] at inside ⊢
  refine ⟨by simp [pick], ?_⟩
  intro place bound
  have listed : place < places.length := by simpa [pick] using bound
  rw [getD_pick coord place listed, getD_pick shape place listed]
  refine inside.2 _ (bounded _ ?_)
  simp [listed]

/-- Distinct axes and the distinct others behind them are a permutation. -/
theorem isPermutation_append {front back : List Nat} (distinct : front.Nodup)
    (othersDistinct : back.Nodup) (apart : ∀ axis ∈ front, axis ∉ back)
    (members : ∀ axis, axis ∈ front ∨ axis ∈ back ↔ axis < rank) :
    IsPermutation (front ++ back) rank := by
  have nodup : (front ++ back).Nodup := by
    rw [List.nodup_append]
    refine ⟨distinct, othersDistinct, ?_⟩
    rintro axis first _ second rfl
    exact apart axis first second
  have perm : (front ++ back).Perm (List.range rank) := by
    rw [List.perm_ext_iff_of_nodup nodup List.nodup_range]
    intro axis
    rw [List.mem_append, members, List.mem_range]
  refine ⟨by simpa using perm.length_eq, ?_, nodup⟩
  intro axis listed
  exact (members axis).mp (List.mem_append.mp listed)

/-- A list read place by place. -/
theorem map_getD_range (xs : List Nat) : (List.range xs.length).map (xs.getD · 0) = xs := by
  refine List.ext_getElem (by simp) ?_
  intro place _ inside
  simp [inside]

/-- An offset is a sum over the axes. -/
theorem offset_eq_sum (coord : Coord) (steps : List Nat)
    (sameLength : coord.length = steps.length) :
    Shape.offset coord steps =
      ((List.range steps.length).map fun axis => coord.getD axis 0 * steps.getD axis 0).sum := by
  have products : List.zipWith (· * ·) coord steps =
      (List.range steps.length).map fun axis => coord.getD axis 0 * steps.getD axis 0 := by
    refine List.ext_getElem (by simp [sameLength]) ?_
    intro axis inside _
    have bound : axis < coord.length ∧ axis < steps.length := by
      rw [List.length_zipWith] at inside
      omega
    simp [bound.1, bound.2]
  rw [Shape.offset, products, List.sum_eq_foldl]

namespace IsPermutation

/-- A permutation lists the axes in some order. -/
theorem perm (permutes : IsPermutation order rank) : order.Perm (List.range rank) := by
  obtain ⟨length, bounded, distinct⟩ := permutes
  have inside : order ⊆ List.range rank :=
    fun axis listed => List.mem_range.mpr (bounded axis listed)
  exact (List.subperm_of_subset distinct inside).perm_of_length_le (by simp [length])

/-- Every axis is listed somewhere. -/
theorem getD_idxOf (permutes : IsPermutation order rank) (axis : Nat) (bound : axis < rank) :
    order.idxOf axis < rank ∧ order.getD (order.idxOf axis) 0 = axis := by
  have listed : axis ∈ order := permutes.perm.mem_iff.mpr (List.mem_range.mpr bound)
  have place := List.idxOf_lt_length_of_mem listed
  refine ⟨permutes.1 ▸ place, ?_⟩
  simp [place]

/-- The listed axis is found where it is listed. -/
theorem idxOf_getD (permutes : IsPermutation order rank) (place : Nat) (bound : place < rank) :
    order.idxOf (order.getD place 0) = place := by
  have inside : place < order.length := by rw [permutes.1]; exact bound
  simp [inside, List.Nodup.idxOf_getElem permutes.2.2]

/-- As many elements as before. -/
theorem count_pick (permutes : IsPermutation order rank) (shape : Shape)
    (sameLength : shape.length = rank) : Shape.count (pick shape order) = Shape.count shape := by
  have product : ∀ shape : Shape, Shape.count shape = shape.prod := by
    intro shape
    induction shape with
    | nil => rfl
    | cons length shape inductionHypothesis => simp [inductionHypothesis]
  have picked := permutes.perm.map fun place => shape.getD place 0
  rw [← sameLength, map_getD_range] at picked
  rw [product, product]
  exact picked.prod_eq

/-- A coordinate is found again in its permuted entries. -/
theorem unpick_pick (permutes : IsPermutation order rank) (coord : Coord)
    (sameLength : coord.length = rank) : unpick order (pick coord order) = coord := by
  calc unpick order (pick coord order)
      = (List.range coord.length).map (coord.getD · 0) := by
        rw [unpick, permutes.1, sameLength]
        refine List.map_congr_left ?_
        intro axis listed
        obtain ⟨place, found⟩ := permutes.getD_idxOf axis (List.mem_range.mp listed)
        rw [getD_pick coord _ (permutes.1 ▸ place), found]
    _ = coord := map_getD_range coord

/-- Permuted entries are those of the coordinate that they come from. -/
theorem pick_unpick (permutes : IsPermutation order rank) (coord : Coord)
    (sameLength : coord.length = rank) : pick (unpick order coord) order = coord := by
  refine List.ext_getElem (by simp [pick, permutes.1, sameLength]) ?_
  intro place _ inside
  have bound : place < rank := by omega
  have listed : order.getD place 0 < order.length := by
    have member : order.getD place 0 ∈ order := by simp [permutes.1 ▸ bound]
    exact permutes.1 ▸ permutes.2.1 _ member
  have entry := getD_pick (unpick order coord) place (permutes.1 ▸ bound)
  rw [getD_unpick coord _ listed, permutes.idxOf_getD place bound] at entry
  simpa [pick, permutes.1, bound, inside] using entry

/-- A coordinate of the permuted shape is that of a coordinate of the shape. -/
theorem contains_unpick (permutes : IsPermutation order rank) (shape : Shape)
    (sameLength : shape.length = rank) (coord : Coord)
    (inside : Shape.contains (pick shape order) coord = true) :
    Shape.contains shape (unpick order coord) = true := by
  rw [Shape.contains_iff_get] at inside ⊢
  refine ⟨by simp [unpick, permutes.1, sameLength], ?_⟩
  intro axis bound
  rw [sameLength] at bound
  obtain ⟨place, found⟩ := permutes.getD_idxOf axis bound
  have below := inside.2 (order.idxOf axis) (by simpa [pick, permutes.1] using place)
  rw [getD_pick shape _ (permutes.1 ▸ place), found] at below
  rwa [getD_unpick coord axis (permutes.1 ▸ bound)]

/-- Permuted strides lead a coordinate to the position of the coordinate it comes from. The sum
    over the axes is taken in the listed order. -/
theorem offset_pick (permutes : IsPermutation order rank) (steps : List Nat)
    (sameLength : steps.length = rank) (coord : Coord) (coordLength : coord.length = rank) :
    Shape.offset coord (pick steps order) = Shape.offset (unpick order coord) steps := by
  let term : Nat → Nat := fun axis => coord.getD (order.idxOf axis) 0 * steps.getD axis 0
  calc Shape.offset coord (pick steps order)
      = ((List.range rank).map fun place =>
          coord.getD place 0 * (pick steps order).getD place 0).sum := by
        rw [offset_eq_sum coord _ (by simp [pick, permutes.1, coordLength])]
        simp [pick, permutes.1]
    _ = (((List.range order.length).map (order.getD · 0)).map term).sum := by
        rw [List.map_map]
        rw [permutes.1]
        refine congrArg List.sum (List.map_congr_left ?_)
        intro place listed
        have bound := List.mem_range.mp listed
        rw [getD_pick steps place (permutes.1 ▸ bound)]
        simp only [term, Function.comp_apply]
        rw [permutes.idxOf_getD place bound]
    _ = (order.map term).sum := by rw [map_getD_range]
    _ = ((List.range rank).map term).sum := (permutes.perm.map term).sum_eq
    _ = Shape.offset (unpick order coord) steps := by
        rw [offset_eq_sum _ steps (by simp [unpick, permutes.1, sameLength]), sameLength]
        refine congrArg List.sum (List.map_congr_left ?_)
        intro axis listed
        rw [getD_unpick coord axis (permutes.1 ▸ List.mem_range.mp listed)]

end IsPermutation

/-- The axes in their order pick every entry. -/
theorem pick_range_length (xs : List Nat) : pick xs (List.range xs.length) = xs := map_getD_range xs

/-- Axes in order leave a coordinate as it is. -/
theorem unpick_range_length (coord : Coord) : unpick (List.range coord.length) coord = coord := by
  have permutes : IsPermutation (List.range coord.length) coord.length :=
    ⟨by simp, fun _ listed => List.mem_range.mp listed, List.nodup_range⟩
  have source := permutes.unpick_pick coord rfl
  rwa [pick_range_length] at source

/-- What permuting the axes gives: a list that is no permutation is refused, the axes in their order
    leave the array as it is, and otherwise it is read through permuted strides, if these are
    words. -/
theorem transpose_eq (t : Tensor) (order : List Nat) :
    t.transpose order =
      if IsPermutation order t.rank then
        if order = List.range t.rank then .ok t
        else if t.shape.StridesFit then
          t.through (pick t.shape order) (pick (Shape.strides t.shape) order)
        else .error .overflow
      else .error (.permutation order t.rank) := by
  rw [transpose]
  by_cases permutes : IsPermutation order t.rank
  · rw [if_neg (by rw [refused_iff]; simpa using permutes), if_pos permutes]
    by_cases ordered : order = List.range t.rank
    · rw [if_pos (inOrder_iff.mpr (permutes.1 ▸ ordered)), if_pos ordered]
    · rw [if_neg (by rw [inOrder_iff, permutes.1]; exact ordered), if_neg ordered, strides_eq]
      by_cases readable : t.shape.StridesFit <;> simp [readable]
  · rw [if_pos (refused_iff.mpr permutes), if_neg permutes]

/-- Axes out of their order are not permuted where a stride is no word. -/
theorem transpose_overflow {t : Tensor} (permutes : IsPermutation order t.rank)
    (tooLarge : ¬ TransposeFits t.shape order) : t.transpose order = .error .overflow := by
  obtain ⟨moves, unreadable⟩ : order ≠ List.range t.rank ∧ ¬ t.shape.StridesFit :=
    not_or.mp tooLarge
  rw [transpose_eq, if_pos permutes, if_neg moves, if_neg unreadable]

/-- Permuting the axes reads the coordinate from which a coordinate comes. -/
theorem Represents.transpose {t : Tensor} {elem : ElemType} {shape : Shape} {value : Coord → Scalar}
    (represents : t.Represents elem shape value) (permutes : IsPermutation order shape.length)
    (fits : TransposeFits shape order) :
    ∃ u, t.transpose order = .ok u ∧
      u.Represents elem (pick shape order) fun coord => value (unpick order coord) := by
  rw [transpose_eq, Tensor.rank, represents.shape_eq, if_pos permutes]
  by_cases ordered : order = List.range shape.length
  · subst ordered
    refine ⟨t, if_pos rfl, ?_⟩
    rw [pick_range_length]
    refine represents.congr _ ?_
    intro coord inside
    rw [← Shape.length_of_contains shape coord inside, unpick_range_length]
  · have readable := fits.resolve_left ordered
    have counted : Shape.count (pick shape order) < Word.limit := by
      rw [permutes.count_pick shape rfl]
      exact represents.counted
    rw [if_neg ordered, if_pos readable]
    refine represents.through (pick shape order) counted (pick (Shape.strides shape) order)
      (unpick order) ?_
    intro coord inside
    refine ⟨permutes.contains_unpick shape rfl coord inside, ?_⟩
    apply permutes.offset_pick _ (Shape.strides_length shape)
    rw [Shape.length_of_contains _ _ inside]
    simp [pick, permutes.1]

end LoopKernels.Tensor
