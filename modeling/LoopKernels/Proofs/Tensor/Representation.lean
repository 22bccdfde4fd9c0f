import LoopKernels.Proofs.Shape.AxisSplit
import LoopKernels.Proofs.Shape.Stretching
import LoopKernels.Proofs.Shape.Words
import LoopKernels.Proofs.Tensor.Storage

/-!
# Arrays as functions of a coordinate

An array is an element type, a shape and a scalar for each coordinate of the shape:
`Represents` says that storage holds exactly these scalars in row-major order. Every
valid array represents its own elements, and what an array represents determines it.
Each array operation is described once, as an operation on the represented function,
under the condition that the counts and strides it forms are words; what is proved of
kernels is proved through these descriptions.
-/

namespace LoopKernels.Tensor

/-- Storage holds the values of a function at the coordinates of the shape, in order, and a word
    counts them. -/
structure Represents (t : Tensor) (elem : ElemType) (shape : Shape)
    (value : Coord → Scalar) : Prop where
  elem_eq : t.elem = elem
  shape_eq : t.shape = shape
  family_eq : t.cells.family = elem.family
  toList_eq : t.cells.toList = (Shape.coordinates shape).map value
  counted : Shape.count shape < Word.limit

/-- The element at a coordinate of the shape. -/
def element (t : Tensor) (coord : Coord) : Scalar :=
  (t.flat? (Shape.offset coord (Shape.strides t.shape))).getD (.int 0)

variable {t : Tensor} {elem : ElemType} {shape : Shape} {value : Coord → Scalar}

/-- A valid array represents its elements. -/
theorem Valid.represents (valid : t.Valid) : t.Represents t.elem t.shape t.element := by
  refine ⟨rfl, rfl, valid.1, ?_, valid.2.2⟩
  refine List.ext_getElem? ?_
  intro position
  by_cases inside : position < Shape.count t.shape
  · have stored : position < t.cells.toList.length := by
      rw [Cells.length_toList, valid.2.1]
      exact inside
    rw [Shape.coordinates_eq, List.map_map, List.getElem?_map, List.getElem?_range inside,
      List.getElem?_eq_getElem stored]
    simp [element, flat?, Cells.get?_eq, List.getElem?_eq_getElem stored,
      (Shape.contains_unravel t.shape position inside).2]
  · rw [List.getElem?_eq_none, List.getElem?_eq_none]
    · simpa using inside
    · rw [Cells.length_toList, valid.2.1]
      exact Nat.le_of_not_lt inside

namespace Represents

/-- An array that represents something is valid. -/
theorem valid (represents : t.Represents elem shape value) : t.Valid := by
  refine ⟨by rw [represents.family_eq, represents.elem_eq], ?_, ?_⟩
  · rw [← Cells.length_toList, represents.toList_eq, represents.shape_eq]
    simp
  · rw [represents.shape_eq]
    exact represents.counted

/-- Strides are found where there is a coordinate. -/
theorem stridesFit (represents : t.Represents elem shape value) (coord : Coord)
    (inside : Shape.contains shape coord = true) : shape.StridesFit :=
  Shape.stridesFit_of_full (Shape.full_of_contains inside) represents.counted

/-- The scalar at a coordinate stands at its offset. -/
theorem flat?_eq (represents : t.Represents elem shape value) (coord : Coord)
    (inside : Shape.contains shape coord = true) :
    t.flat? (Shape.offset coord (Shape.strides shape)) = some (value coord) := by
  rw [flat?, Cells.get?_eq, represents.toList_eq, List.getElem?_map,
    Shape.getElem?_coordinates shape coord inside, Option.map_some]

/-- Reading at a coordinate gives the represented value. -/
theorem get_eq (represents : t.Represents elem shape value) (coord : Coord)
    (inside : Shape.contains shape coord = true) : t.get coord = .ok (value coord) := by
  have stored := represents.flat?_eq coord inside
  have found : t.position coord = .ok (Shape.offset coord (Shape.strides shape)) := by
    rw [position, represents.shape_eq, if_pos inside, strides_eq, represents.shape_eq,
      if_pos (represents.stridesFit coord inside)]
    rfl
  simp [get, found, stored]

/-- The element at a coordinate is the represented value. -/
theorem element_eq (represents : t.Represents elem shape value) (coord : Coord)
    (inside : Shape.contains shape coord = true) : t.element coord = value coord := by
  simp [element, represents.shape_eq, represents.flat?_eq coord inside]

/-- Only the values inside the shape matter. -/
theorem congr (represents : t.Represents elem shape value) (other : Coord → Scalar)
    (same : ∀ coord, Shape.contains shape coord = true → value coord = other coord) :
    t.Represents elem shape other := by
  refine ⟨represents.elem_eq, represents.shape_eq, represents.family_eq, ?_, represents.counted⟩
  rw [represents.toList_eq]
  exact List.map_congr_left fun coord member =>
    same coord ((Shape.mem_coordinates shape coord).mp member)

/-- What an array represents determines it. -/
theorem unique (represents : t.Represents elem shape value) (u : Tensor)
    (other : u.Represents elem shape value) : t = u := by
  have cells : t.cells = u.cells :=
    Cells.eq_of_toList _ _ (represents.family_eq.trans other.family_eq.symm)
      (represents.toList_eq.trans other.toList_eq.symm)
  obtain ⟨_, _, _⟩ := t
  obtain ⟨_, _, _⟩ := u
  have types := represents.elem_eq.trans other.elem_eq.symm
  have shapes := represents.shape_eq.trans other.shape_eq.symm
  simp_all

end Represents

/-- The integer at a coordinate of an array of a truth-value or integer type. -/
def integer (t : Tensor) (coord : Coord) : Int := (t.element coord).integer?.getD 0

/-- A valid array with elements in range holds an integer of its type at each coordinate. -/
theorem Valid.holds (valid : t.Valid) (bounded : t.InRange) (exact : t.elem.isFloat = false)
    (coord : Coord) (inside : Shape.contains t.shape coord = true) :
    (t.element coord).Holds t.elem (t.integer coord) := by
  have stored : t.element coord ∈ t.cells.toList := by
    rw [valid.represents.toList_eq]
    exact List.mem_map_of_mem ((Shape.mem_coordinates t.shape coord).mpr inside)
  have kind := (t.cells.family_of_mem _ stored).trans valid.1
  have within := bounded _ stored
  cases bounds : t.elem.bounds with
  | none => cases type : t.elem <;> simp_all [ElemType.bounds, ElemType.family, ElemType.isFloat]
  | some ends =>
    cases whole : (t.element coord).integer? with
    | none => simp [Scalar.inBounds, whole, bounds] at within
    | some n =>
      simp only [Scalar.inBounds, whole, bounds, Bool.and_eq_true, decide_eq_true_eq] at within
      simp only [integer, whole, Option.getD_some]
      exact ⟨kind, whole, t.elem.wrap_of_bounds n _ _ bounds within.1 within.2⟩

/-- Scalars are held as they were cast. -/
theorem toList_withScalars (elem : ElemType) (shape : Shape) (values : List Scalar) :
    (withScalars elem shape values).cells.toList = values.map (·.cast elem) := by
  refine Cells.toList_collect _ _ ?_
  intro scalar member
  obtain ⟨source, _, rfl⟩ := List.mem_map.mp member
  exact source.family_cast elem

/-- Scalars listed in the order of the coordinates are cast and held in that order. -/
theorem withScalars_represents (elem : ElemType) (shape : Shape) (value : Coord → Scalar)
    (counted : shape.count < Word.limit) :
    (withScalars elem shape ((Shape.coordinates shape).map value)).Represents elem shape
      fun coord => (value coord).cast elem := by
  refine ⟨rfl, rfl, by simp [withScalars], ?_, counted⟩
  rw [toList_withScalars, List.map_map]
  rfl

/-- Writing over the elements from a position on leaves those before it. -/
theorem overwrite_eq (t : Tensor) (valid : t.Valid) (position : Nat) (written : List Scalar)
    (size : position + written.length = t.cells.size) :
    ∃ u, t.overwrite position written = .ok u ∧ u.elem = t.elem ∧ u.shape = t.shape ∧
      u.cells.family = t.elem.family ∧
      u.cells.toList = t.cells.toList.take position ++ written.map (·.cast t.elem) := by
  induction written generalizing t position with
  | nil =>
    refine ⟨t, rfl, rfl, rfl, valid.1, ?_⟩
    rw [List.map_nil, List.append_nil, List.take_of_length_le]
    rw [Cells.length_toList, ← size]
    simp
  | cons value written inductionHypothesis =>
    simp only [List.length_cons] at size
    obtain ⟨cells, set, family, stored⟩ := Cells.set?_eq_some t.cells position (value.cast t.elem)
      (by rw [Scalar.family_cast, valid.1]) (by omega)
    have sameSize : cells.size = t.cells.size := by
      rw [← Cells.length_toList, stored, List.length_set, Cells.length_toList]
    obtain ⟨u, rest, types, shapes, families, listed⟩ :=
      inductionHypothesis { t with cells }
        ⟨family.trans valid.1, sameSize.trans valid.2.1, valid.2.2⟩ (position + 1) (by simp only [sameSize]; omega)
    refine ⟨u, by simp [overwrite, setFlat, set, rest], types, shapes, families, ?_⟩
    have bound : position < (t.cells.toList.set position (value.cast t.elem)).length := by
      rw [List.length_set, Cells.length_toList]
      omega
    have grown : (t.cells.toList.set position (value.cast t.elem)).take (position + 1) =
        t.cells.toList.take position ++ [value.cast t.elem] := by
      rw [List.take_succ_eq_append_getElem bound, List.getElem_set_self, List.take_set,
        List.set_eq_of_length_le (by rw [List.length_take]; omega)]
    simp [listed, stored, grown]

/-- An array written over from its start holds the written scalars and nothing else. -/
theorem overwrite_all (t : Tensor) (valid : t.Valid) (written : List Scalar)
    (size : written.length = Shape.count t.shape) :
    t.overwrite 0 written = .ok (withScalars t.elem t.shape written) := by
  obtain ⟨u, done, types, shapes, family, listed⟩ :=
    overwrite_eq t valid 0 written (by rw [Nat.zero_add, size, valid.2.1])
  have cells : u.cells = (withScalars t.elem t.shape written).cells := by
    refine Cells.eq_of_toList _ _ (by simp [family, withScalars]) ?_
    rw [listed, toList_withScalars]
    rfl
  rw [done]
  obtain ⟨_, _, _⟩ := u
  simp_all [withScalars]

/-- As many scalars as the shape has coordinates are accepted. -/
theorem ofScalars_ok (elem : ElemType) (shape : Shape) (values : List Scalar)
    (fits : shape.CountFits) (sameSize : values.length = Shape.count shape) :
    ofScalars elem shape values = .ok (withScalars elem shape values) := by
  have size : (Cells.collect elem.family (values.map (·.cast elem))).size = Shape.count shape := by
    rw [← sameSize]
    cases elem.family <;> simp [Cells.collect, Cells.size]
  simp [ofScalars, ofCells, withScalars, Shape.elementCount_eq, fits, size]

/-- One value at every coordinate. -/
theorem full_represents (shape : Shape) (scalar : Scalar) (elem : ElemType)
    (fits : shape.CountFits) :
    ∃ u, full shape scalar elem = .ok u ∧
      u.Represents elem shape fun _ => scalar.cast elem := by
  refine ⟨_, ?_, withScalars_represents elem shape (fun _ => scalar) fits.count_lt⟩
  simp [full, withScalars, Shape.elementCount_eq, fits, Cells.filled_eq_collect, List.map_const']

/-- The only value of an array without axes. -/
theorem single_represents (scalar : Scalar) (elem : ElemType) :
    (single scalar elem).Represents elem [] fun _ => scalar.cast elem := by
  have listed : single scalar elem =
      withScalars elem [] ((Shape.coordinates []).map fun _ => scalar) := by
    simp [single, withScalars, Cells.filled_eq_collect, List.map_const']
  rw [listed]
  exact withScalars_represents elem [] (fun _ => scalar) (by decide)

/-- A converted array has the target's element type. -/
@[simp] theorem elem_convert (t : Tensor) (target : ElemType) :
    (t.convert target).elem = target := by
  unfold convert
  split
  next same => exact same.symm
  next => rfl

/-- Conversion keeps the lengths. -/
@[simp] theorem shape_convert (t : Tensor) (target : ElemType) :
    (t.convert target).shape = t.shape := by
  unfold convert
  split <;> rfl

/-- Converting casts every element. Where the type stays, so do the elements, which are their
    own casts when they lie in its range. -/
theorem Valid.convert_represents (valid : t.Valid) (bounded : t.InRange)
    (exact : t.elem.isFloat = false) (target : ElemType) :
    (t.convert target).Represents target t.shape fun coord => (t.element coord).cast target := by
  have represents := valid.represents
  by_cases same : target = t.elem
  · subst same
    simp only [convert, if_true]
    refine represents.congr _ ?_
    intro coord inside
    exact (valid.holds bounded exact coord inside).cast_self.symm
  · have listed : t.toList = (Shape.coordinates t.shape).map t.element := represents.toList_eq
    simp only [convert, if_neg same, listed]
    exact withScalars_represents target t.shape t.element valid.2.2

/-- Strides that read an array in a target shape are found exactly when its own strides are and the
    lengths align. -/
theorem stretchStrides_eq_ok {target : Shape} {strides : List Nat} :
    t.stretchStrides target = .ok strides ↔
      t.shape.StridesFit ∧ Shape.stretch? t.shape target = some strides := by
  by_cases lower : target.length < t.shape.length
  · simp [stretchStrides, rank, Shape.stretch?, lower]
  · by_cases readable : t.shape.StridesFit
    · cases stretched : Shape.stretchAxes? t.shape (Shape.strides t.shape)
        (target.drop (target.length - t.shape.length)) <;>
      simp [stretchStrides, rank, Shape.stretch?, lower, strides_eq, readable, stretched]
    · simp [stretchStrides, rank, lower, strides_eq, readable]

namespace Represents

/-- A function of each element. -/
theorem map (represents : t.Represents elem shape value) (target : ElemType)
    (f : Scalar → Scalar) :
    (t.map target f).Represents target shape fun coord => (f (value coord)).cast target := by
  have same : t.map target f =
      withScalars target shape ((Shape.coordinates shape).map fun coord => f (value coord)) := by
    simp [Tensor.map, toList, represents.toList_eq, represents.shape_eq, Function.comp_def]
  rw [same]
  exact withScalars_represents target shape _ represents.counted

/-- Elements read through strides, where each coordinate of the new shape has the offset of
    a source coordinate. -/
theorem through (represents : t.Represents elem shape value) (target : Shape)
    (word : target.count < Word.limit) (steps : List Nat) (source : Coord → Coord)
    (reads : ∀ coord, Shape.contains target coord = true →
      Shape.contains shape (source coord) = true ∧
        Shape.offset coord steps = Shape.offset (source coord) (Shape.strides shape)) :
    ∃ u, t.through target steps = .ok u ∧
      u.Represents elem target fun coord => value (source coord) := by
  have stored : ∀ coord, Shape.contains target coord = true →
      t.cells.toList[Shape.offset coord steps]? = some (value (source coord)) := by
    intro coord inside
    obtain ⟨sourceInside, sameOffset⟩ := reads coord inside
    rw [sameOffset, ← Cells.get?_eq]
    exact represents.flat?_eq (source coord) sourceInside
  obtain ⟨cells, gathered, family, values⟩ := Cells.gather_ok t.cells
    ((Shape.coordinates target).map fun coord => Shape.offset coord steps)
    (fun position => (t.cells.toList[position]?).getD (.int 0))
    (by
      intro position member
      obtain ⟨coord, listed, rfl⟩ := List.mem_map.mp member
      rw [stored coord ((Shape.mem_coordinates target coord).mp listed), Option.getD_some])
  have visited : target.walk = .ok target.coordinates := Shape.walk_eq_ok.mpr ⟨word, rfl⟩
  refine ⟨⟨t.elem, target, cells⟩, by simp [Tensor.through, visited, gathered],
    represents.elem_eq, rfl, family.trans represents.family_eq, ?_, word⟩
  rw [values, List.map_map]
  refine List.map_congr_left ?_
  intro coord listed
  simp [stored coord ((Shape.mem_coordinates target coord).mp listed)]

/-- The strides of a stretched shape lead to the scalar at the shrunk coordinate. -/
theorem flat?_stretched (represents : t.Represents elem shape value) (target : Shape)
    (strides : List Nat) (stretched : Shape.stretch? shape target = some strides) (coord : Coord)
    (inside : Shape.contains target coord = true) :
    t.flat? (Shape.offset coord strides) = some (value (Shape.shrink shape coord)) := by
  obtain ⟨within, sameOffset⟩ :=
    Shape.stretch?_offset shape target strides coord stretched inside
  rw [sameOffset, represents.flat?_eq _ within]

/-- Stretching reads the shrunk coordinate. An array that has the shape already is not read, and
    there the shrunk coordinate is the coordinate. -/
theorem broadcastTo (represents : t.Represents elem shape value) (target : Shape)
    (stretches : (Shape.stretch? shape target).isSome = true)
    (fits : target = shape ∨ shape.StridesFit ∧ target.count < Word.limit) :
    ∃ u, t.broadcastTo target = .ok u ∧
      u.Represents elem target fun coord => value (Shape.shrink shape coord) := by
  by_cases same : target = shape
  · subst same
    refine ⟨t, by simp [Tensor.broadcastTo, represents.shape_eq], represents.congr _ ?_⟩
    intro coord inside
    rw [Shape.shrink_self target coord inside]
  · obtain ⟨steps, stretched⟩ := Option.isSome_iff_exists.mp stretches
    obtain ⟨readable, word⟩ := fits.resolve_left same
    obtain ⟨u, read, result⟩ := represents.through target word steps (Shape.shrink shape)
      fun coord inside => Shape.stretch?_offset shape target steps coord stretched inside
    have found : t.stretchStrides target = .ok steps := by
      rw [stretchStrides_eq_ok, represents.shape_eq]
      exact ⟨readable, stretched⟩
    exact ⟨u, by simp [Tensor.broadcastTo, same, represents.shape_eq, found, read], result⟩

/-- A function of two arrays reads both at the coordinate shrunk to their shapes. -/
theorem zipWith (represents : t.Represents elem shape value) (u : Tensor)
    (otherElem : ElemType) (otherShape common : Shape) (other : Coord → Scalar)
    (second : u.Represents otherElem otherShape other)
    (meets : Shape.broadcast? [shape, otherShape] = some common) (readable : shape.StridesFit)
    (otherReadable : otherShape.StridesFit) (word : common.count < Word.limit) (target : ElemType)
    (f : Scalar → Scalar → Scalar) :
    ∃ w, t.zipWith u target f = .ok w ∧
      w.Represents target common fun coord =>
        (f (value (Shape.shrink shape coord)) (other (Shape.shrink otherShape coord))).cast
          target := by
  obtain ⟨left, leftStretched⟩ := Option.isSome_iff_exists.mp
    (Shape.stretch?_of_broadcast? _ common shape meets (by simp))
  obtain ⟨right, rightStretched⟩ := Option.isSome_iff_exists.mp
    (Shape.stretch?_of_broadcast? _ common otherShape meets (by simp))
  have values : ((Shape.coordinates common).map fun coord =>
      pair f (t.flat? (Shape.offset coord left)) (u.flat? (Shape.offset coord right))) =
      (Shape.coordinates common).map fun coord =>
        f (value (Shape.shrink shape coord)) (other (Shape.shrink otherShape coord)) := by
    refine List.map_congr_left ?_
    intro coord listed
    have inside := (Shape.mem_coordinates common coord).mp listed
    rw [represents.flat?_stretched common left leftStretched coord inside,
      second.flat?_stretched common right rightStretched coord inside]
    rfl
  have leftFound : t.stretchStrides common = .ok left := by
    rw [stretchStrides_eq_ok, represents.shape_eq]
    exact ⟨readable, leftStretched⟩
  have rightFound : u.stretchStrides common = .ok right := by
    rw [stretchStrides_eq_ok, second.shape_eq]
    exact ⟨otherReadable, rightStretched⟩
  have visited : common.walk = .ok common.coordinates := Shape.walk_eq_ok.mpr ⟨word, rfl⟩
  refine ⟨_, ?_, withScalars_represents target common _ word⟩
  simp [Tensor.zipWith, Shape.broadcast, represents.shape_eq, second.shape_eq, meets, leftFound,
    rightFound, visited, values]

/-- An inserted axis of length one is ignored by the represented function. -/
theorem expandDims (represents : t.Represents elem shape value) (axis : Nat)
    (bound : axis ≤ shape.length) (fits : shape.CountFits) :
    ∃ u, t.expandDims axis = .ok u ∧
      u.Represents elem (shape.insertIdx axis 1) fun coord => value (coord.eraseIdx axis) := by
  have rank : ¬ t.rank < axis := by
    rw [Tensor.rank, represents.shape_eq]
    omega
  have listed : (Shape.coordinates (shape.insertIdx axis 1)).map
      (fun coord => value (coord.eraseIdx axis)) = (Shape.coordinates shape).map value := by
    rw [Shape.coordinates_insertIdx_one shape axis bound, List.map_map]
    simp [Function.comp_def]
  have size : Shape.count (shape.insertIdx axis 1) = t.size := by
    rw [size, represents.valid.2.1, represents.shape_eq, ← Shape.coordinates_length,
      Shape.coordinates_insertIdx_one shape axis bound, List.length_map,
      Shape.coordinates_length]
  have inserted := (Shape.countFits_insertIdx_one shape axis bound).mpr fits
  refine ⟨{ t with shape := shape.insertIdx axis 1 }, ?_, represents.elem_eq, rfl,
    represents.family_eq, by rw [listed, represents.toList_eq], inserted.count_lt⟩
  simp [Tensor.expandDims, rank, represents.shape_eq, Shape.take_cons_drop shape axis 1 bound,
    reshape, Shape.elementCount_eq, inserted, size]

end Represents

end LoopKernels.Tensor
