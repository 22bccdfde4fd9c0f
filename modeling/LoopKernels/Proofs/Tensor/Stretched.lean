import LoopKernels.Proofs.Shape.LeastBroadcast

/-!
# Stretching once and twice

A stretched array reads each of its elements at the trailing entries of the coordinate, with zero
on the axes along which the source has length one. Stretching twice copies the elements in between,
under strides that belong to the shape in between; the entries that the first shape leaves out are
then left out before or after those that the second one leaves out. An axis of length one between
the two stages comes from one of length one, so nothing is left out that the source could tell
apart, and one stage gives the same array as two.

An array that has the target shape is given back without a look at its strides. In every other case
the strides of the source are formed and the elements of the target are counted, and both must be
words.
-/

namespace LoopKernels

namespace Shape

variable {shape middle target : Shape} {coord : Coord}

/-- A shrunk coordinate has the rank of the shape. -/
theorem length_shrink (rank : shape.length ≤ coord.length) :
    (shrink shape coord).length = shape.length := by
  simp only [shrink, List.length_zipWith, List.length_drop]
  omega

/-- The entry that is read on an axis of the source. -/
theorem getD_shrink (shape : Shape) (coord : Coord) (axis : Nat)
    (rank : shape.length ≤ coord.length) (inside : axis < shape.length) :
    (shrink shape coord).getD axis 0 =
      if shape.getD axis 0 = 1 then 0
      else coord.getD (coord.length - shape.length + axis) 0 := by
  have there : coord.length - shape.length + axis < coord.length := by omega
  simp [shrink, List.getD_eq_getElem?_getD, List.getElem?_zipWith, inside, there]

/-- A shape aligns with a target of at least its rank when each of its lengths is one or that of the
    target as many axes before the last one. -/
theorem aligns_iff_getD :
    shape.Aligns target ↔ shape.length ≤ target.length ∧
      ∀ axis, axis < shape.length → shape.getD axis 0 = 1 ∨
        shape.getD axis 0 = target.getD (target.length - shape.length + axis) 0 := by
  rw [aligns_iff_isSome, stretch?_isSome, Fits, List.length_drop]
  refine and_congr_right ?_
  intro bound
  have rank : target.length - (target.length - shape.length) = shape.length := by omega
  rw [rank]
  simp [List.getD_eq_getElem?_getD]

/-- Leaving out the entries of a shape in between changes nothing for a shape that aligns with it:
    where the one in between has length one, so has the other. -/
theorem shrink_shrink (aligns : shape.Aligns middle) (rank : middle.length ≤ coord.length) :
    shrink shape (shrink middle coord) = shrink shape coord := by
  obtain ⟨lower, lengths⟩ := aligns_iff_getD.mp aligns
  have between : (shrink middle coord).length = middle.length := length_shrink rank
  have left : (shrink shape (shrink middle coord)).length = shape.length :=
    length_shrink (by omega)
  have right : (shrink shape coord).length = shape.length := length_shrink (by omega)
  refine List.ext_getElem (by omega) ?_
  intro axis here there
  have inside : axis < shape.length := by omega
  have aligned : coord.length - middle.length + (middle.length - shape.length + axis) =
      coord.length - shape.length + axis := by omega
  have same : (shrink shape (shrink middle coord)).getD axis 0 =
      (shrink shape coord).getD axis 0 := by
    rw [getD_shrink shape (shrink middle coord) axis (by omega) inside, between,
      getD_shrink middle coord _ rank (by omega), aligned,
      getD_shrink shape coord axis (by omega) inside]
    have length := lengths axis inside
    split
    · rfl
    · rw [if_neg (by omega)]
  simpa [List.getD_eq_getElem?_getD, here, there] using same

/-- A shape with an empty axis stretches only to shapes with one. -/
theorem zero_mem_of_stretch? {strides : List Nat} (stretched : stretch? shape target = some strides)
    (empty : 0 ∈ shape) : 0 ∈ target := by
  by_contra full
  have positive : 0 < count target :=
    Nat.pos_of_ne_zero fun none => full ((count_eq_zero target).mp none)
  have inside := (contains_unravel target 0 positive).1
  exact full_of_contains (stretch?_offset shape target strides _ stretched inside).1 empty

end Shape

namespace Tensor

variable {t u v : Tensor}

/-- The strides of a shape are words and a word counts the elements of the target; to its own shape
    an array is stretched without either. -/
def StretchFits (shape target : Shape) : Prop :=
  target = shape ∨ shape.StridesFit ∧ target.count < Word.limit

instance (shape target : Shape) : Decidable (StretchFits shape target) :=
  inferInstanceAs (Decidable (_ ∨ _ ∧ _))

/-- An array that has been stretched represents what the source holds at the shrunk coordinates. -/
theorem Represents.of_broadcastTo {elem : ElemType} {shape target : Shape} {value : Coord → Scalar}
    (represents : t.Represents elem shape value) (stretched : t.broadcastTo target = .ok u) :
    shape.Aligns target ∧ StretchFits shape target ∧
      u.Represents elem target fun coord => value (Shape.shrink shape coord) := by
  have conditions : (Shape.stretch? shape target).isSome = true ∧ StretchFits shape target := by
    unfold Tensor.broadcastTo at stretched
    split at stretched
    next same =>
      rw [represents.shape_eq] at same
      rw [same, Shape.stretch?_isSome]
      exact ⟨⟨Nat.le_refl _, by simpa using Shape.fits_refl shape⟩, .inl rfl⟩
    next =>
      obtain ⟨strides, found, read⟩ := (Outcome.bind_eq_ok _ _ _).mp stretched
      obtain ⟨coords, visited, -⟩ := (Outcome.bind_eq_ok _ _ _).mp read
      rw [stretchStrides_eq_ok, represents.shape_eq] at found
      exact ⟨Option.isSome_iff_exists.mpr ⟨strides, found.2⟩,
        .inr ⟨found.1, (Shape.walk_eq_ok.mp visited).1⟩⟩
  obtain ⟨found, fits⟩ := conditions
  obtain ⟨w, again, result⟩ := represents.broadcastTo target found fits
  obtain rfl : w = u := Except.ok.inj (again.symm.trans stretched)
  exact ⟨Shape.aligns_iff_isSome.mpr found, fits, result⟩

/-- Broadcasting succeeds when the shapes align and the index arithmetic fits words. -/
theorem broadcastTo_ok_iff (valid : t.Valid) (target : Shape) :
    (∃ u, t.broadcastTo target = .ok u) ↔ t.shape.Aligns target ∧ StretchFits t.shape target := by
  constructor
  · rintro ⟨u, stretched⟩
    obtain ⟨aligns, fits, -⟩ := valid.represents.of_broadcastTo stretched
    exact ⟨aligns, fits⟩
  · rintro ⟨aligns, fits⟩
    obtain ⟨u, stretched, -⟩ :=
      valid.represents.broadcastTo target (Shape.aligns_iff_isSome.mp aligns) fits
    exact ⟨u, stretched⟩

/-- Strides that read an array in a target shape are refused with the two shapes when they do not
    align, and otherwise for strides that are no words. -/
theorem stretchStrides_error {target : Shape} {e : TensorError}
    (failed : t.stretchStrides target = .error e) :
    e = .broadcast [t.shape, target] ∧ ¬ t.shape.Aligns target ∨
      e = .overflow ∧ ¬ t.shape.StridesFit := by
  rw [Shape.aligns_iff_isSome]
  by_cases lower : target.length < t.shape.length
  · left
    simp_all [stretchStrides, rank, Shape.stretch?]
  · by_cases readable : t.shape.StridesFit
    · left
      cases stretched : Shape.stretchAxes? t.shape (Shape.strides t.shape)
        (target.drop (target.length - t.shape.length)) <;>
      simp_all [stretchStrides, rank, Shape.stretch?, strides_eq]
    · right
      simp_all [stretchStrides, rank, strides_eq]

/-- Stretching fails with the two shapes when they do not align, and otherwise for a stride or a
    count that is no word. -/
theorem broadcastTo_error (valid : t.Valid) (target : Shape) (e : TensorError)
    (failed : t.broadcastTo target = .error e) :
    e = .broadcast [t.shape, target] ∧ ¬ t.shape.Aligns target ∨
      e = .overflow ∧ ¬ StretchFits t.shape target := by
  have other : target ≠ t.shape := by
    rintro rfl
    simp [Tensor.broadcastTo] at failed
  have refused : ¬ (t.shape.Aligns target ∧ StretchFits t.shape target) := by
    rw [← broadcastTo_ok_iff valid target]
    rintro ⟨u, stretched⟩
    rw [stretched] at failed
    cases failed
  rw [Tensor.broadcastTo, if_neg other] at failed
  cases found : t.stretchStrides target with
  | error first =>
    obtain rfl : first = e := by simpa [found] using failed
    refine (stretchStrides_error found).imp_right ?_
    rintro ⟨rfl, readable⟩
    exact ⟨rfl, fun fits => readable (fits.resolve_left other).1⟩
  | ok strides =>
    obtain ⟨readable, stretched⟩ := stretchStrides_eq_ok.mp found
    have aligns : t.shape.Aligns target := by
      rw [Shape.aligns_iff_isSome, stretched]
      rfl
    have many : ¬ target.count < Word.limit :=
      fun word => refused ⟨aligns, .inr ⟨readable, word⟩⟩
    obtain rfl : .overflow = e := by simpa [found, through, Shape.walk, many] using failed
    exact .inr ⟨rfl, fun fits => refused ⟨aligns, fits⟩⟩

/-- Stretching twice is stretching at once. -/
theorem broadcastTo_broadcastTo {middle target : Shape} (valid : t.Valid)
    (first : t.broadcastTo middle = .ok u) (second : u.broadcastTo target = .ok v) :
    t.broadcastTo target = .ok v := by
  obtain ⟨below, firstFits, once⟩ := valid.represents.of_broadcastTo first
  obtain ⟨above, secondFits, twice⟩ := once.of_broadcastTo second
  -- A stage that keeps the shape asks for nothing, so the other one decides.
  have fits : StretchFits t.shape target := by
    rcases firstFits with rfl | ⟨readable, word⟩
    · exact secondFits
    · rcases secondFits with rfl | ⟨-, word⟩ <;> exact .inr ⟨readable, word⟩
  obtain ⟨w, direct, single⟩ := valid.represents.broadcastTo target
    (Shape.aligns_iff_isSome.mp (below.trans above)) fits
  rw [direct]
  refine congrArg Except.ok (single.unique v (twice.congr _ ?_))
  intro coord inside
  have rank : middle.length ≤ coord.length := by
    rw [Shape.length_of_contains target coord inside]
    exact above.1
  rw [Shape.shrink_shrink below rank]

/-- Broadcasting an array composes. It succeeds exactly when the target has at least the rank of the
    array and, aligned at the last axes, each length of the array is one or that of the target, and
    further the target is the shape of the array, or the strides of the array are words and a word
    counts the target. The element at a coordinate is that of the array at the trailing entries,
    with zero on the axes of length one. An array broadcast to one shape and then to another is the
    array broadcast to the second one. -/
theorem broadcasting_composes (x : Tensor) (valid : x.Valid) (s t : Shape) :
    ((∃ y, x.broadcastTo s = .ok y) ↔
      (x.rank ≤ s.length ∧ ∀ axis < x.rank, x.shape.getD axis 0 = 1 ∨
        x.shape.getD axis 0 = s.getD (s.length - x.rank + axis) 0) ∧
      (s = x.shape ∨ x.shape.StridesFit ∧ s.count < Word.limit)) ∧
    (∀ e, x.broadcastTo s = .error e →
      e = .broadcast [x.shape, s] ∧ ¬ x.shape.Aligns s ∨
        e = .overflow ∧ ¬ StretchFits x.shape s) ∧
    (∀ y, x.broadcastTo s = .ok y →
      y.Valid ∧ y.elem = x.elem ∧ y.shape = s ∧
      ∀ coord, Shape.contains s coord = true →
        ∃ source value, Shape.contains x.shape source = true ∧
          (∀ axis < x.rank, source.getD axis 0 =
            if x.shape.getD axis 0 = 1 then 0
            else coord.getD (s.length - x.rank + axis) 0) ∧
          x.get source = .ok value ∧ y.get coord = .ok value) ∧
    (∀ y z, x.broadcastTo s = .ok y → y.broadcastTo t = .ok z → x.broadcastTo t = .ok z) := by
  refine ⟨(broadcastTo_ok_iff valid s).trans (and_congr_left' Shape.aligns_iff_getD),
    broadcastTo_error valid s, ?_, fun y z => broadcastTo_broadcastTo valid⟩
  intro y stretched
  obtain ⟨aligns, -, represents⟩ := valid.represents.of_broadcastTo stretched
  refine ⟨represents.valid, represents.elem_eq, represents.shape_eq, ?_⟩
  intro coord inside
  have rank : coord.length = s.length := Shape.length_of_contains s coord inside
  have lower : x.shape.length ≤ coord.length := rank ▸ aligns.1
  obtain ⟨strides, found⟩ := Option.isSome_iff_exists.mp (Shape.aligns_iff_isSome.mp aligns)
  have within := (Shape.stretch?_offset x.shape s strides coord found inside).1
  refine ⟨Shape.shrink x.shape coord, x.element (Shape.shrink x.shape coord), within, ?_,
    valid.represents.get_eq _ within, represents.get_eq coord inside⟩
  intro axis bound
  rw [Shape.getD_shrink x.shape coord axis lower bound, rank]
  rfl

/-- Two rows of one truth value each. -/
def flags : Tensor := ⟨.bool, [2, 1], .bool #[true, false]⟩

/-- A column becomes a table and then a stack of tables, at once or in two stages; it does not
    become a table with three rows. An array without elements does not receive an axis in front
    when its strides leave the word. -/
theorem broadcasting_composes_column :
    flags.broadcastTo [2, 3] = .ok ⟨.bool, [2, 3], .bool #[true, true, true, false, false, false]⟩ ∧
      flags.broadcastTo [2, 2, 3] = .ok ⟨.bool, [2, 2, 3],
        .bool #[true, true, true, false, false, false, true, true, true, false, false, false]⟩ ∧
      (¬ ∃ y, flags.broadcastTo [3, 3] = .ok y) ∧
      ¬ ∃ y, hollow.broadcastTo [1, 0, 2 ^ 32, 2 ^ 32] = .ok y := by
  have wide : flags.broadcastTo [2, 3] =
      .ok ⟨.bool, [2, 3], .bool #[true, true, true, false, false, false]⟩ := by decide +kernel
  obtain ⟨-, -, -, composes⟩ := broadcasting_composes flags (by decide) [2, 3] [2, 2, 3]
  obtain ⟨exact, -⟩ := broadcasting_composes flags (by decide) [3, 3] []
  obtain ⟨unread, -⟩ := broadcasting_composes hollow (by decide) [1, 0, 2 ^ 32, 2 ^ 32] []
  refine ⟨wide, composes _ _ wide (by decide +kernel), ?_, ?_⟩
  · rw [exact]
    decide
  · rw [unread]
    decide

end Tensor

end LoopKernels
