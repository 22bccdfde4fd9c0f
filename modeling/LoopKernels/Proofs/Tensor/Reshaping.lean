import LoopKernels.Proofs.Tensor.Representation

/-!
# Reshaped arrays

Reshaping keeps the elements and their order, so the element at a coordinate of the new shape
is the one at the coordinate of the old shape with the same number. The number of a coordinate
made of two parts counts blocks: each step of the front part passes over as many elements as
the back part has coordinates. Axes at the end can therefore be flattened into one, whose
index is the number of the coordinate it stands for.
-/

namespace LoopKernels

namespace Shape

/-- The entries of joined shapes multiply. -/
theorem count_append (front back : Shape) : count (front ++ back) = count front * count back := by
  induction front with
  | nil => simp
  | cons length front inductionHypothesis => simp [inductionHypothesis, Nat.mul_assoc]

/-- A coordinate made of two parts lies inside two shapes, one behind the other, when each part
    lies inside its own. -/
theorem contains_append (front back : Shape) (coord rest : Coord)
    (sameLength : coord.length = front.length) :
    contains (front ++ back) (coord ++ rest) = true ↔
      contains front coord = true ∧ contains back rest = true := by
  induction front generalizing coord with
  | nil =>
    obtain rfl := List.length_eq_zero_iff.mp sameLength
    simp
  | cons length front inductionHypothesis =>
    cases coord with
    | nil => simp at sameLength
    | cons index coord =>
      simp [inductionHypothesis coord (by simpa using sameLength), and_assoc]

/-- The front part of a coordinate counts blocks as large as the back shape. -/
theorem offset_append (front back : Shape) (coord rest : Coord)
    (sameLength : coord.length = front.length) :
    offset (coord ++ rest) (strides (front ++ back)) =
      offset coord (strides front) * count back + offset rest (strides back) := by
  induction front generalizing coord with
  | nil =>
    obtain rfl := List.length_eq_zero_iff.mp sameLength
    simp
  | cons length front inductionHypothesis =>
    cases coord with
    | nil => simp at sameLength
    | cons index coord =>
      simp only [List.cons_append, strides_cons, offset_cons, count_append,
        inductionHypothesis coord (by simpa using sameLength), Nat.add_mul, Nat.mul_assoc,
        Nat.add_assoc]

/-- A coordinate inside two shapes, one behind the other, is made of two parts. -/
theorem exists_append (front back : Shape) (coord : Coord)
    (inside : contains (front ++ back) coord = true) :
    ∃ first rest, coord = first ++ rest ∧ contains front first = true ∧
      contains back rest = true := by
  have length := length_of_contains _ coord inside
  rw [List.length_append] at length
  rw [← List.take_append_drop front.length coord] at inside ⊢
  have parts := (contains_append front back _ _ (by simp; omega)).mp inside
  exact ⟨_, _, rfl, parts⟩

end Shape

namespace Tensor.Represents

variable {t : Tensor} {elem : ElemType} {shape : Shape} {value : Coord → Scalar}

/-- Coordinates of one number hold one element. -/
theorem reshape (represents : t.Represents elem shape value) (target : Shape)
    (fits : target.CountFits) (sameCount : Shape.count target = Shape.count shape)
    (source : Coord → Coord)
    (sameNumber : ∀ coord, Shape.contains target coord = true →
      Shape.contains shape (source coord) = true ∧
        Shape.offset (source coord) (Shape.strides shape) =
          Shape.offset coord (Shape.strides target)) :
    ∃ u, t.reshape target = .ok u ∧
      u.Represents elem target fun coord => value (source coord) := by
  have sources : (Shape.coordinates target).map source = Shape.coordinates shape := by
    rw [Shape.coordinates_eq, Shape.coordinates_eq, List.map_map, sameCount]
    refine List.map_congr_left ?_
    intro position listed
    obtain ⟨inside, numbered⟩ := Shape.contains_unravel target position
      (by rw [sameCount]; exact List.mem_range.mp listed)
    obtain ⟨sourceInside, same⟩ := sameNumber _ inside
    rw [Function.comp_apply, ← Shape.unravel_offset shape _ sourceInside, same, numbered]
  have size : Shape.count target = t.size := by
    rw [sameCount, Tensor.size, represents.valid.2.1, represents.shape_eq]
  refine ⟨{ t with shape := target }, ?_, represents.elem_eq, rfl, represents.family_eq, ?_,
    fits.count_lt⟩
  · simp [Tensor.reshape, Shape.elementCount_eq, fits, size]
  · rw [represents.toList_eq, ← sources, List.map_map]
    rfl

/-- Flattening the axes behind the front ones: the index on the last axis is the number of the
    coordinate that it stands for. -/
theorem flatten {front back : Shape} (represents : t.Represents elem (front ++ back) value)
    (fits : Shape.CountFits (front ++ [Shape.count back])) :
    ∃ u, t.reshape (front ++ [Shape.count back]) = .ok u ∧
      u.Represents elem (front ++ [Shape.count back]) fun coord =>
        value (coord.take front.length ++
          Shape.unravel (coord.getD front.length 0) back) := by
  refine represents.reshape _ fits (by simp [Shape.count_append]) _ ?_
  intro coord inside
  obtain ⟨first, rest, rfl, firstInside, restInside⟩ := Shape.exists_append _ _ coord inside
  have length := Shape.length_of_contains front first firstInside
  obtain ⟨number, rfl⟩ := List.length_eq_one_iff.mp (Shape.length_of_contains _ rest restInside)
  have bound : number < Shape.count back := by simpa using restInside
  obtain ⟨backInside, numbered⟩ := Shape.contains_unravel back number bound
  have last : (first ++ [number]).getD front.length 0 = number := by simp [← length]
  rw [last, ← length, List.take_left]
  constructor
  · exact (Shape.contains_append front back first _ length).mpr ⟨firstInside, backInside⟩
  · rw [Shape.offset_append front _ first _ length, Shape.offset_append front _ first _ length]
    simp [numbered]

end Tensor.Represents

end LoopKernels
