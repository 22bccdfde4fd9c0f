import LoopKernels.Proofs.Tensor.Representation

/-!
# Sound arrays

An array is sound when its storage fits its element type and its shape and when its
elements lie within the bounds of the type. Elements are held in wide words, so nothing
in the storage keeps a narrow type to its bounds; each operation has to. There are two
ways in which one does: it casts every element that it writes, or it only moves elements
that were sound already. Each operation below is of one of these two kinds, and both
kinds give sound arrays whenever they give arrays.
-/

namespace LoopKernels

/-- A scalar in the representation of an element type and within its bounds. -/
structure Scalar.Fits (s : Scalar) (e : ElemType) : Prop where
  family_eq : s.family = e.family
  within : s.inBounds e = true

/-- A scalar that holds an integer of a type fits the type. -/
theorem Scalar.Holds.fits {s : Scalar} {e : ElemType} {n : Int} (holds : s.Holds e n) :
    s.Fits e :=
  ⟨holds.family_eq, holds.inBounds_eq⟩

/-- Whatever is cast to an element type fits it. -/
theorem Scalar.cast_fits (s : Scalar) (e : ElemType) : (s.cast e).Fits e := by
  cases exact : e.isFloat with
  | false =>
    obtain ⟨n, holds⟩ := s.exists_cast_holds e exact
    exact holds.fits
  | true =>
    refine ⟨s.family_cast e, ?_⟩
    cases e <;> simp_all [ElemType.isFloat, ElemType.family, Scalar.inBounds, ElemType.bounds]

namespace Cells

/-- Gathered cells have the family of the source, one cell for each position, and nothing
    that the source does not have. -/
theorem gather_eq_ok (cells gathered : Cells) (positions : List Nat)
    (read : cells.gather positions = .ok gathered) :
    gathered.family = cells.family ∧ gathered.size = positions.length ∧
      ∀ s ∈ gathered.toList, s ∈ cells.toList := by
  have found : ∀ {α : Type} (source result : Array α), entries source positions = .ok result →
      result.size = positions.length ∧ ∀ entry ∈ result.toList, entry ∈ source.toList := by
    intro α source result collected
    obtain ⟨listed, mapped, rfl⟩ := (Outcome.map_eq_ok _ _ _).mp collected
    refine ⟨by simpa using Outcome.mapM_length _ _ _ mapped, ?_⟩
    intro entry member
    have each := (Outcome.mapM_eq_ok _ _ _).mp mapped
    have here : Except.ok entry ∈ positions.map (Cells.entry source) := by
      rw [each]
      exact List.mem_map_of_mem (by simpa using member)
    obtain ⟨position, _, stored⟩ := List.mem_map.mp here
    unfold Cells.entry at stored
    split at stored
    · rename_i present
      obtain rfl := Except.ok.inj stored
      exact Array.mem_toList_iff.mpr (Array.mem_of_getElem? present)
    · simp at stored
  cases cells with
  | bool source | signed source | unsigned source | float source =>
    obtain ⟨result, collected, rfl⟩ := (Outcome.map_eq_ok _ _ _).mp read
    obtain ⟨size, members⟩ := found source result collected
    refine ⟨rfl, size, ?_⟩
    intro s member
    obtain ⟨entry, listed, rfl⟩ := List.mem_map.mp member
    exact List.mem_map_of_mem (members entry listed)

end Cells

namespace Tensor

/-- Storage fits the array, and its elements lie within the bounds of the element type. -/
structure Sound (t : Tensor) : Prop where
  valid : t.Valid
  inRange : t.InRange

variable {t u : Tensor}

/-- Every element of a sound array fits its type. -/
theorem Sound.fits (sound : t.Sound) (s : Scalar) (member : s ∈ t.toList) : s.Fits t.elem :=
  ⟨(t.cells.family_of_mem s member).trans sound.valid.1, sound.inRange s member⟩

/-- An array made from another one: its storage fits, and each of its elements was cast to its
    element type or was an element of the other, which then has the same type. -/
structure Derived (t u : Tensor) : Prop where
  valid : u.Valid
  element : ∀ s ∈ u.cells.toList,
    (∃ source : Scalar, s = source.cast u.elem) ∨ (u.elem = t.elem ∧ s ∈ t.cells.toList)

namespace Derived

/-- Elements in another order and number. -/
theorem of_subset (elem_eq : u.elem = t.elem) (valid : u.Valid)
    (subset : ∀ s ∈ u.cells.toList, s ∈ t.cells.toList) : Derived t u :=
  ⟨valid, fun s member => .inr ⟨elem_eq, subset s member⟩⟩

/-- Elements that were within their bounds stay so, and those that are cast get there. -/
theorem inRange (derived : Derived t u) (bounded : t.InRange) : u.InRange := by
  intro s member
  rcases derived.element s member with ⟨source, rfl⟩ | ⟨sameType, before⟩
  · exact (source.cast_fits u.elem).within
  · rw [sameType]
    exact bounded s before

/-- An array derived from a sound one is sound. -/
theorem sound (derived : Derived t u) (sound : t.Sound) : u.Sound :=
  ⟨derived.valid, derived.inRange sound.inRange⟩

end Derived

/-! ## Operations that cast -/

/-- As many scalars as a word counts make valid storage. -/
theorem withScalars_valid (elem : ElemType) (shape : Shape) (values : List Scalar)
    (counted : shape.count < Word.limit) (length : values.length = shape.count) :
    (withScalars elem shape values).Valid := by
  refine ⟨by simp [withScalars], ?_, counted⟩
  rw [← Cells.length_toList, toList_withScalars, List.length_map, length]
  rfl

/-- As many scalars as the shape has coordinates, each of them cast, are a sound array. -/
theorem withScalars_sound (elem : ElemType) (shape : Shape) (values : List Scalar)
    (counted : shape.count < Word.limit) (length : values.length = shape.count) :
    (withScalars elem shape values).Sound := by
  refine ⟨withScalars_valid elem shape values counted length, ?_⟩
  intro scalar member
  rw [toList_withScalars] at member
  obtain ⟨source, _, rfl⟩ := List.mem_map.mp member
  exact (source.cast_fits elem).within

/-- Scalars that are cast may come from any array. -/
theorem withScalars_derived (t : Tensor) (elem : ElemType) (shape : Shape) (values : List Scalar)
    (counted : shape.count < Word.limit) (length : values.length = shape.count) :
    Derived t (withScalars elem shape values) := by
  refine ⟨withScalars_valid elem shape values counted length, ?_⟩
  intro scalar member
  rw [toList_withScalars] at member
  obtain ⟨source, _, rfl⟩ := List.mem_map.mp member
  exact .inl ⟨source, rfl⟩

/-- Storage that is accepted fits. -/
theorem valid_of_ofCells {elem : ElemType} {shape : Shape} {cells : Cells}
    (made : ofCells elem shape cells = .ok t) : t.Valid := by
  unfold ofCells at made
  split at made
  · cases made
  · rename_i family
    obtain ⟨count, counted, rest⟩ := (Outcome.bind_eq_ok _ _ _).mp made
    obtain ⟨fits, rfl⟩ := Shape.elementCount_eq_ok.mp counted
    split at rest
    · cases rest
    · rename_i size
      obtain rfl := Except.ok.inj rest
      exact ⟨not_not.mp family, not_not.mp size, fits.count_lt⟩

/-- Scalars that are accepted for a shape are a sound array. -/
theorem ofScalars_sound (elem : ElemType) (shape : Shape) (values : List Scalar)
    (built : ofScalars elem shape values = .ok t) : t.Sound := by
  have valid := valid_of_ofCells built
  obtain rfl : withScalars elem shape values = t := by
    simp only [ofScalars, ofCells, Cells.family_collect, ne_eq, not_true_eq_false, if_false]
      at built
    obtain ⟨count, -, rest⟩ := (Outcome.bind_eq_ok _ _ _).mp built
    split at rest
    · cases rest
    · exact Except.ok.inj rest
  have length : values.length = shape.count := by
    have size := valid.2.1
    rwa [← Cells.length_toList, toList_withScalars, List.length_map] at size
  exact withScalars_sound elem shape values valid.2.2 length

/-- An array filled with one value is sound. -/
theorem full_sound (shape : Shape) (value : Scalar) (elem : ElemType)
    (made : full shape value elem = .ok t) : t.Sound := by
  obtain ⟨count, counted, -⟩ := (Outcome.bind_eq_ok _ _ _).mp made
  obtain ⟨u, again, represents⟩ :=
    full_represents shape value elem (Shape.elementCount_eq_ok.mp counted).1
  obtain rfl : u = t := Except.ok.inj (again.symm.trans made)
  refine ⟨represents.valid, ?_⟩
  intro scalar member
  rw [represents.toList_eq] at member
  obtain ⟨_, _, rfl⟩ := List.mem_map.mp member
  rw [represents.elem_eq]
  exact (value.cast_fits elem).within

/-- An array without axes is sound. -/
theorem single_sound (value : Scalar) (elem : ElemType) : (single value elem).Sound :=
  full_sound [] value elem rfl

/-- A function of each element. -/
theorem Valid.map_derived (valid : t.Valid) (target : ElemType) (f : Scalar → Scalar) :
    Derived t (t.map target f) := by
  refine withScalars_derived t target t.shape _ valid.2.2 ?_
  rw [List.length_map, toList, Cells.length_toList, valid.2.1]

/-- A conversion to another type casts; one to the same type moves nothing. -/
theorem Valid.convert_derived (valid : t.Valid) (target : ElemType) :
    Derived t (t.convert target) := by
  unfold Tensor.convert
  split
  · exact .of_subset rfl valid fun _ member => member
  · refine withScalars_derived t target t.shape t.toList valid.2.2 ?_
    rw [toList, Cells.length_toList, valid.2.1]

/-- A converted array is sound. -/
theorem Sound.convert (sound : t.Sound) (target : ElemType) : (t.convert target).Sound :=
  (sound.valid.convert_derived target).sound sound

/-- A function of two arrays gives one scalar for each coordinate of a shape, whatever the arrays
    are. -/
theorem zipWith_eq_ok (a b : Tensor) (target : ElemType) (f : Scalar → Scalar → Scalar)
    (combined : a.zipWith b target f = .ok u) :
    ∃ shape values, shape.count < Word.limit ∧ values.length = shape.count ∧
      u = withScalars target shape values := by
  obtain ⟨shape, _, rest⟩ := (Outcome.bind_eq_ok _ _ _).mp combined
  obtain ⟨left, _, rest⟩ := (Outcome.bind_eq_ok _ _ _).mp rest
  obtain ⟨right, _, rest⟩ := (Outcome.bind_eq_ok _ _ _).mp rest
  obtain ⟨coords, visited, rest⟩ := (Outcome.bind_eq_ok _ _ _).mp rest
  obtain ⟨counted, rfl⟩ := Shape.walk_eq_ok.mp visited
  exact ⟨shape, _, counted, by simp, (Except.ok.inj rest).symm⟩

/-- A function of two arrays gives a sound array. -/
theorem zipWith_sound (a b : Tensor) (target : ElemType) (f : Scalar → Scalar → Scalar)
    (combined : a.zipWith b target f = .ok u) : u.Sound := by
  obtain ⟨shape, values, counted, length, rfl⟩ := zipWith_eq_ok a b target f combined
  exact withScalars_sound target shape values counted length

/-- A written element is cast, and the others stay. -/
theorem Valid.setFlat_derived (valid : t.Valid) (position : Nat) (value : Scalar)
    (written : t.setFlat position value = .ok u) : Derived t u := by
  have held : (value.cast t.elem).family = t.cells.family :=
    (value.family_cast t.elem).trans valid.1.symm
  have bound : position < t.cells.size := by
    by_contra outside
    simp [Tensor.setFlat, Cells.set?, outside] at written
  obtain ⟨cells, set, family, listed⟩ := Cells.set?_eq_some t.cells position _ held bound
  obtain rfl : { t with cells } = u := by simpa [Tensor.setFlat, set] using written
  refine ⟨⟨family.trans valid.1, ?_, valid.2.2⟩, ?_⟩
  · rw [← Cells.length_toList, listed, List.length_set, Cells.length_toList]
    exact valid.2.1
  · intro s member
    rcases List.mem_or_eq_of_mem_set (listed ▸ member) with before | rfl
    · exact .inr ⟨rfl, before⟩
    · exact .inl ⟨value, rfl⟩

/-- An array with one element written is sound. -/
theorem Sound.setFlat (sound : t.Sound) (position : Nat) (value : Scalar)
    (written : t.setFlat position value = .ok u) : u.Sound :=
  (sound.valid.setFlat_derived position value written).sound sound

/-! ## Operations that move -/

/-- Cells gathered for every coordinate of a shape. -/
theorem Valid.gather_derived (valid : t.Valid) (shape : Shape) (counted : shape.count < Word.limit)
    (positions : List Nat) (length : positions.length = shape.count) (cells : Cells)
    (gathered : t.cells.gather positions = .ok cells) : Derived t ⟨t.elem, shape, cells⟩ := by
  obtain ⟨family, size, members⟩ := t.cells.gather_eq_ok cells _ gathered
  exact .of_subset rfl ⟨family.trans valid.1, size.trans length, counted⟩ members

/-- Elements read through strides. -/
theorem Valid.through_derived (valid : t.Valid) (shape : Shape) (strides : List Nat)
    (read : t.through shape strides = .ok u) : Derived t u := by
  obtain ⟨coords, visited, rest⟩ := (Outcome.bind_eq_ok _ _ _).mp read
  obtain ⟨counted, rfl⟩ := Shape.walk_eq_ok.mp visited
  obtain ⟨cells, gathered, built⟩ := (Outcome.bind_eq_ok _ _ _).mp rest
  obtain rfl := Except.ok.inj built
  exact valid.gather_derived shape counted _ (by simp) cells gathered

/-- Permuted axes. -/
theorem Valid.transpose_derived (valid : t.Valid) (order : List Nat)
    (moved : t.transpose order = .ok u) : Derived t u := by
  unfold Tensor.transpose at moved
  split at moved
  · cases moved
  · split at moved
    · obtain rfl := Except.ok.inj moved
      exact .of_subset rfl valid fun _ member => member
    · obtain ⟨strides, _, read⟩ := (Outcome.bind_eq_ok _ _ _).mp moved
      exact valid.through_derived _ _ read

/-- Stretched axes. -/
theorem Valid.broadcastTo_derived (valid : t.Valid) (target : Shape)
    (stretched : t.broadcastTo target = .ok u) : Derived t u := by
  unfold Tensor.broadcastTo at stretched
  split at stretched
  · obtain rfl := Except.ok.inj stretched
    exact .of_subset rfl valid fun _ member => member
  · obtain ⟨strides, _, read⟩ := (Outcome.bind_eq_ok _ _ _).mp stretched
    exact valid.through_derived target strides read

/-- Another shape for the same elements. -/
theorem Valid.reshape_derived (valid : t.Valid) (shape : Shape)
    (moved : t.reshape shape = .ok u) : Derived t u := by
  obtain ⟨count, counted, rest⟩ := (Outcome.bind_eq_ok _ _ _).mp moved
  obtain ⟨fits, rfl⟩ := Shape.elementCount_eq_ok.mp counted
  split at rest
  · cases rest
  · rename_i sameSize
    obtain rfl := Except.ok.inj rest
    exact .of_subset rfl ⟨valid.1, (not_not.mp sameSize).symm, fits.count_lt⟩
      fun _ member => member

/-- An axis of length one more. -/
theorem Valid.expandDims_derived (valid : t.Valid) (axis : Nat)
    (moved : t.expandDims axis = .ok u) : Derived t u := by
  unfold Tensor.expandDims at moved
  split at moved
  · simp at moved
  · exact valid.reshape_derived _ moved

/-- Consecutive elements. -/
theorem Valid.lane_derived (valid : t.Valid) (start length : Nat)
    (taken : t.lane start length = .ok u) : Derived t u := by
  unfold Tensor.lane at taken
  split at taken
  · simp at taken
  · rename_i within
    obtain ⟨cells, gathered, built⟩ := (Outcome.bind_eq_ok _ _ _).mp taken
    obtain rfl := Except.ok.inj built
    have counted : Shape.count [length] < Word.limit := by
      have size : t.size < Word.limit := by
        rw [Tensor.size, valid.2.1]
        exact valid.2.2
      simp only [Shape.count_cons, Shape.count_nil, Nat.mul_one]
      omega
    exact valid.gather_derived [length] counted _ (by simp) cells gathered

/-- Permuting the axes keeps an array sound. -/
theorem Sound.transpose (sound : t.Sound) (order : List Nat)
    (moved : t.transpose order = .ok u) : u.Sound :=
  (sound.valid.transpose_derived order moved).sound sound

/-- Another shape keeps an array sound. -/
theorem Sound.reshape (sound : t.Sound) (shape : Shape) (moved : t.reshape shape = .ok u) :
    u.Sound :=
  (sound.valid.reshape_derived shape moved).sound sound

/-- An axis of length one keeps an array sound. -/
theorem Sound.expandDims (sound : t.Sound) (axis : Nat) (moved : t.expandDims axis = .ok u) :
    u.Sound :=
  (sound.valid.expandDims_derived axis moved).sound sound

/-- The only element of a sound array fits its type. -/
theorem Sound.item (sound : t.Sound) (s : Scalar) (only : t.item = .ok s) : s.Fits t.elem := by
  unfold Tensor.item at only
  split at only
  · rename_i value listed
    obtain rfl := Except.ok.inj only
    exact sound.fits value (by simp [listed])
  · simp at only

end Tensor

namespace Value

/-- A sound array, or a scalar that fits the element type it comes with. -/
def Sound : Value → Prop
  | tensor t => t.Sound
  | scalar value elem => value.Fits elem

variable {v : Value}

/-- A sound value makes a sound array. -/
theorem Sound.toTensor (sound : v.Sound) : v.toTensor.Sound := by
  cases v with
  | tensor t => exact sound
  | scalar value elem => exact Tensor.single_sound value elem

/-- A converted value is sound. -/
theorem Sound.convert (sound : v.Sound) (target : ElemType) : (v.convert target).Sound := by
  cases v with
  | tensor t => exact Tensor.Sound.convert sound target
  | scalar value elem => exact value.cast_fits target

end Value

end LoopKernels
