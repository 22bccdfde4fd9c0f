import LoopKernels.Proofs.Shape.Words

/-!
# Taking one axis out of a shape

A coordinate of a shape is a coordinate of the remaining axes together with an index
on the axis taken out. Erasing the axis and inserting the index are inverse to each
other, and both keep a coordinate inside. An axis of length one carries no
information: the shape without it lists its coordinates in the same order.
-/

namespace LoopKernels.Shape

/-- To insert at the place of an erased entry is to replace it. -/
theorem insertIdx_eraseIdx_set (coord : List Nat) (axis index : Nat) (bound : axis < coord.length) :
    (coord.eraseIdx axis).insertIdx axis index = coord.set axis index := by
  induction coord generalizing axis with
  | nil => simp at bound
  | cons first coord inductionHypothesis =>
    cases axis with
    | zero => simp
    | succ axis => simpa using inductionHypothesis axis (by simpa using bound)

/-- An erased entry is put back by inserting it. -/
theorem insertIdx_eraseIdx_getD (coord : List Nat) (axis : Nat) (bound : axis < coord.length) :
    (coord.eraseIdx axis).insertIdx axis (coord.getD axis 0) = coord := by
  rw [insertIdx_eraseIdx_set coord axis _ bound]
  simp [bound]

/-- A coordinate with an index inserted lies inside a shape exactly when the index is below
    the length of that axis and the coordinate lies inside the remaining axes. -/
theorem contains_insertIdx (shape : Shape) (axis index : Nat) (coord : Coord)
    (bound : axis < shape.length) (sameRank : coord.length + 1 = shape.length) :
    contains shape (coord.insertIdx axis index) = true ↔
      index < shape.getD axis 0 ∧ contains (shape.eraseIdx axis) coord = true := by
  induction shape generalizing axis coord with
  | nil => simp at bound
  | cons length shape inductionHypothesis =>
    cases axis with
    | zero => simp
    | succ axis =>
      cases coord with
      | nil =>
        simp only [List.length_nil, List.length_cons] at bound sameRank
        omega
      | cons first coord =>
        simp only [List.insertIdx_succ_cons, contains_cons, List.eraseIdx_cons_succ]
        rw [inductionHypothesis axis coord (by simpa using bound) (by simpa using sameRank)]
        simp only [List.getD_cons_succ]
        exact and_left_comm

/-- An index below the length of an axis may be inserted into a coordinate of the others. -/
theorem contains_insert (shape : Shape) (axis index : Nat) (coord : Coord)
    (bound : axis < shape.length) (below : index < shape.getD axis 0)
    (inside : contains (shape.eraseIdx axis) coord = true) :
    contains shape (coord.insertIdx axis index) = true := by
  have sameRank : coord.length + 1 = shape.length := by
    rw [length_of_contains _ _ inside, List.length_eraseIdx_of_lt bound]
    omega
  exact (contains_insertIdx shape axis index coord bound sameRank).mpr ⟨below, inside⟩

/-- Erasing an axis keeps a coordinate inside, and its index was below the length. -/
theorem contains_eraseIdx (shape : Shape) (axis : Nat) (coord : Coord)
    (bound : axis < shape.length) (inside : contains shape coord = true) :
    coord.getD axis 0 < shape.getD axis 0 ∧
      contains (shape.eraseIdx axis) (coord.eraseIdx axis) = true := by
  have rank : coord.length = shape.length := length_of_contains shape coord inside
  have erased : (coord.eraseIdx axis).length + 1 = shape.length := by
    rw [List.length_eraseIdx_of_lt (by omega)]
    omega
  rw [← contains_insertIdx shape axis _ _ bound erased,
    insertIdx_eraseIdx_getD coord axis (by omega)]
  exact inside

/-- Inserting an axis of length one inserts a zero into each coordinate and keeps their
    order. -/
theorem coordinates_insertIdx_one (shape : Shape) (axis : Nat) (bound : axis ≤ shape.length) :
    coordinates (shape.insertIdx axis 1) = (coordinates shape).map (·.insertIdx axis 0) := by
  induction shape generalizing axis with
  | nil =>
    obtain rfl : axis = 0 := by simpa using bound
    rfl
  | cons length shape inductionHypothesis =>
    cases axis with
    | zero => simp [coordinates_cons 1]
    | succ axis =>
      rw [List.insertIdx_succ_cons, coordinates_cons, coordinates_cons,
        inductionHypothesis axis (by simpa using bound), List.map_flatMap]
      simp [Function.comp_def]

/-- Inserting an entry is putting it between the entries before and after its place. -/
theorem take_cons_drop (shape : Shape) (axis length : Nat) (bound : axis ≤ shape.length) :
    shape.take axis ++ length :: shape.drop axis = shape.insertIdx axis length := by
  induction shape generalizing axis with
  | nil =>
    obtain rfl : axis = 0 := by simpa using bound
    rfl
  | cons first shape inductionHypothesis =>
    cases axis with
    | zero => rfl
    | succ axis => simp [inductionHypothesis axis (by simpa using bound)]

/-- A count is found with an axis of length one exactly when it is found without it. -/
theorem countFits_insertIdx_one (shape : Shape) (axis : Nat) (bound : axis ≤ shape.length) :
    CountFits (shape.insertIdx axis 1) ↔ shape.CountFits := by
  rw [← take_cons_drop shape axis 1 bound, countFits_append_one, List.take_append_drop]

end LoopKernels.Shape
