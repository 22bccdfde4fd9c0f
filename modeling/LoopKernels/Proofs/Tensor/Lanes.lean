import LoopKernels.Proofs.Reduction.Lanes
import LoopKernels.Proofs.Tensor.Reshaping

/-!
# Lanes as arrays

The elements along an axis form an array with one axis. Where the axis is the last one they
are consecutive, and the lane at a coordinate of the axes in front of it starts at the number
of that coordinate, counted in lanes.
-/

namespace LoopKernels

/-- The elements along an axis, at a coordinate of the other axes, as an array. -/
def Tensor.laneAlong (t : Tensor) (axis : Nat) (rest : Coord) : Tensor :=
  ⟨t.elem, [t.shape.getD axis 0],
    .collect t.elem.family (laneAt axis (t.shape.getD axis 0) t.element rest)⟩

/-- A function of coordinates along an axis, at a coordinate of the other axes. -/
def alongLane (axis : Nat) (rest : Coord) (value : Coord → Scalar) (place : Coord) : Scalar :=
  value (rest.insertIdx axis (place.getD 0 0))

/-- The coordinates of an array with one axis. -/
theorem Shape.coordinates_one (length : Nat) :
    Shape.coordinates [length] = (List.range length).map fun index => [index] := by
  rw [Shape.coordinates_cons, List.map_eq_flatMap]
  rfl

/-- Where an array has a lane, the lane has at most as many elements as the array. -/
theorem Shape.count_lane_le (shape : Shape) (axis : Nat) (rest : Coord)
    (bound : axis < shape.length) (inside : Shape.contains (shape.eraseIdx axis) rest = true) :
    Shape.count [shape.getD axis 0] ≤ Shape.count shape := by
  rcases Nat.eq_zero_or_pos (shape.getD axis 0) with empty | some
  · rw [empty]
    exact Nat.zero_le _
  · have full := Shape.full_of_contains (Shape.contains_insert shape axis 0 rest bound some inside)
    refine Shape.count_le_of_sublist full (List.singleton_sublist.mpr ?_)
    simp [bound]

/-- The elements of a valid array are of the family of its type. -/
theorem Tensor.Valid.family_element {t : Tensor} (valid : t.Valid) (coord : Coord)
    (inside : Shape.contains t.shape coord = true) :
    (t.element coord).family = t.elem.family := by
  rw [← valid.1]
  refine t.cells.family_of_mem _ ?_
  rw [valid.represents.toList_eq]
  exact List.mem_map_of_mem ((Shape.mem_coordinates t.shape coord).mpr inside)

/-- The lane of a valid array represents the elements along the axis. -/
theorem Tensor.Valid.laneAlong_represents {t : Tensor} (valid : t.Valid) (axis : Nat)
    (bound : axis < t.rank) (rest : Coord)
    (inside : Shape.contains (t.shape.eraseIdx axis) rest = true) :
    (t.laneAlong axis rest).Represents t.elem [t.shape.getD axis 0]
      (alongLane axis rest t.element) := by
  have families : ∀ s ∈ laneAt axis (t.shape.getD axis 0) t.element rest,
      s.family = t.elem.family := by
    intro s listed
    obtain ⟨index, below, rfl⟩ := List.mem_map.mp listed
    exact valid.family_element _
      (Shape.contains_insert t.shape axis index rest bound (List.mem_range.mp below) inside)
  have counted := lt_of_le_of_lt (Shape.count_lane_le t.shape axis rest bound inside) valid.2.2
  refine ⟨rfl, rfl, by simp [laneAlong], ?_, counted⟩
  rw [Shape.coordinates_one, List.map_map]
  exact Cells.toList_collect _ _ families

/-- The lane behind a coordinate of the axes in front of the last one is cut out of the
    storage. -/
theorem Tensor.Represents.lane {t : Tensor} {elem : ElemType} {front : Shape} {length : Nat}
    {value : Coord → Scalar} (represents : t.Represents elem (front ++ [length]) value)
    (coord : Coord) (inside : Shape.contains front coord = true) :
    ∃ u, t.lane (Shape.offset coord (Shape.strides front) * length) length = .ok u ∧
      u.Represents elem [length] fun place => value (coord ++ place) := by
  have sameLength := Shape.length_of_contains front coord inside
  have first := Shape.offset_lt_count front coord inside
  have size : t.size = Shape.count front * length := by
    rw [Tensor.size, represents.valid.2.1, represents.shape_eq, Shape.count_append]
    simp
  have fits : ¬ (length ≠ 0 ∧
      t.size < Shape.offset coord (Shape.strides front) * length + length) := by
    have bound := Nat.mul_le_mul_right length (Nat.succ_le_of_lt first)
    rw [Nat.succ_mul] at bound
    omega
  have stored : ∀ index < length,
      t.cells.toList[Shape.offset coord (Shape.strides front) * length + index]? =
        some (value (coord ++ [index])) := by
    intro index below
    have there : Shape.contains (front ++ [length]) (coord ++ [index]) = true :=
      (Shape.contains_append front [length] coord [index] sameLength).mpr
        ⟨inside, by simpa using below⟩
    have found := represents.flat?_eq _ there
    rw [Shape.offset_append front [length] coord [index] sameLength] at found
    simpa [Tensor.flat?, Cells.get?_eq] using found
  obtain ⟨cells, gathered, family, values⟩ := Cells.gather_ok t.cells
    (List.range' (Shape.offset coord (Shape.strides front) * length) length)
    (fun position => (t.cells.toList[position]?).getD (.int 0))
    (by
      intro position member
      obtain ⟨index, below, rfl⟩ := List.mem_range'.mp member
      rw [Nat.one_mul, stored index below, Option.getD_some])
  refine ⟨⟨t.elem, [length], cells⟩, ?_, represents.elem_eq, rfl,
    family.trans represents.family_eq, ?_, ?_⟩
  · rw [Tensor.lane, if_neg fits, gathered]
    rfl
  · rw [values, Shape.coordinates_one, List.range'_eq_map_range, List.map_map, List.map_map]
    refine List.map_congr_left ?_
    intro index listed
    simp [stored index (List.mem_range.mp listed)]
  · have least := Nat.le_mul_of_pos_left length (Nat.zero_lt_of_lt first)
    have counted := represents.counted
    rw [Shape.count_append] at counted
    simp only [Shape.count_cons, Shape.count_nil, Nat.mul_one] at counted ⊢
    omega

end LoopKernels
