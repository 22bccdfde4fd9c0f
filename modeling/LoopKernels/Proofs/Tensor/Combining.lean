import LoopKernels.Proofs.Tensor.Stretched

/-!
# Combining two arrays

A function of two arrays never builds the arrays it combines. It walks over the common shape and
reads both operands through strides that are zero where an operand is stretched, and a read that
finds no element would put a zero into the result without a word. The operands stretched to the
common shape, built in full and combined position by position, give the same array: at every
coordinate the strides lead to the element that the stretched operand holds there, so every read
finds an element.

Both operands are read through strides, also one that has the common shape already. The combination
therefore needs both to have strides that are words, which stretching an operand in full does not
always need.
-/

namespace LoopKernels.Tensor

variable {t u : Tensor} {elem : ElemType} {shape target : Shape} {value : Coord → Scalar}

/-- The element at a position is the value at the coordinate there. -/
theorem Represents.flat?_unravel (represents : t.Represents elem shape value) (position : Nat)
    (bound : position < Shape.count shape) :
    t.flat? position = some (value (Shape.unravel position shape)) := by
  obtain ⟨inside, back⟩ := Shape.contains_unravel shape position bound
  have stored := represents.flat?_eq _ inside
  rwa [back] at stored

/-- Strides that read an array in a target shape lead to the elements of the stretched array. -/
theorem Represents.reads_stretched (represents : t.Represents elem shape value)
    (aligns : shape.Aligns target) (readable : shape.StridesFit)
    (word : target.count < Word.limit) :
    ∃ strides v, t.stretchStrides target = .ok strides ∧ t.broadcastTo target = .ok v ∧
      (v.Represents elem target fun coord => value (Shape.shrink shape coord)) ∧
      ∀ coord, Shape.contains target coord = true →
        t.flat? (Shape.offset coord strides) = some (value (Shape.shrink shape coord)) ∧
          v.get coord = .ok (value (Shape.shrink shape coord)) := by
  have found := Shape.aligns_iff_isSome.mp aligns
  obtain ⟨v, stretched, result⟩ := represents.broadcastTo target found (.inr ⟨readable, word⟩)
  obtain ⟨strides, found⟩ := Option.isSome_iff_exists.mp found
  refine ⟨strides, v, ?_, stretched, result, ?_⟩
  · rw [stretchStrides_eq_ok, represents.shape_eq]
    exact ⟨readable, found⟩
  · intro coord inside
    exact ⟨represents.flat?_stretched target strides found coord inside,
      result.get_eq coord inside⟩

/-- Arrays of one shape, combined position by position and cast. -/
theorem Represents.withScalars_zipWith {otherElem : ElemType} {other : Coord → Scalar}
    (represents : t.Represents elem shape value) (second : u.Represents otherElem shape other)
    (result : ElemType) (f : Scalar → Scalar → Scalar) :
    (withScalars result shape (List.zipWith f t.toList u.toList)).Represents result shape
      fun coord => (f (value coord) (other coord)).cast result := by
  have values : List.zipWith f t.toList u.toList =
      (Shape.coordinates shape).map fun coord => f (value coord) (other coord) := by
    rw [toList, toList, represents.toList_eq, second.toList_eq, List.zipWith_map, List.zipWith_self]
  rw [values]
  exact withScalars_represents result shape _ represents.counted

/-- The strides of two shapes are words, and a word counts the elements of their common shape. -/
def CombineFits (shape other common : Shape) : Prop :=
  shape.StridesFit ∧ other.StridesFit ∧ common.count < Word.limit

instance (shape other common : Shape) : Decidable (CombineFits shape other common) :=
  inferInstanceAs (Decidable (_ ∧ _ ∧ _))

/-- Shapes that have a common one are combined unless a stride or the count is no word. -/
theorem zipWith_overflow {common : Shape} (meets : Shape.broadcast [t.shape, u.shape] = .ok common)
    (tooLarge : ¬ CombineFits t.shape u.shape common) (result : ElemType)
    (f : Scalar → Scalar → Scalar) : t.zipWith u result f = .error .overflow := by
  have admits := (Shape.isLeastCommon_of_broadcast meets).admits
  have refused : ∀ w : Tensor, w.shape.Aligns common → ∀ e, w.stretchStrides common = .error e →
      e = .overflow := by
    intro w aligns e failed
    rcases stretchStrides_error failed with ⟨-, misaligned⟩ | ⟨same, -⟩
    · exact absurd aligns misaligned
    · exact same
  rw [Tensor.zipWith, meets, Outcome.bind_ok]
  cases left : t.stretchStrides common with
  | error e =>
    obtain rfl := refused t (admits t.shape (by simp)) e left
    rfl
  | ok leftStrides =>
    cases right : u.stretchStrides common with
    | error e =>
      obtain rfl := refused u (admits u.shape (by simp)) e right
      rfl
    | ok rightStrides =>
      have many : ¬ common.count < Word.limit := fun word =>
        tooLarge ⟨(stretchStrides_eq_ok.mp left).1, (stretchStrides_eq_ok.mp right).1, word⟩
      simp [Shape.walk, many]

/-- A function of two arrays fails as broadcasting their shapes fails. Where these have a common
    shape, it fails exactly when a stride of one of the arrays or the count of the common shape is
    no word; otherwise it gives the array whose elements are those of the two arrays broadcast to
    the common shape, combined position by position and cast. Every read through the strides finds
    the element that the array broadcast in full holds at the coordinate. -/
theorem zipWith_is_materialised (x y : Tensor) (valid : x.Valid) (second : y.Valid)
    (elem : ElemType) (f : Scalar → Scalar → Scalar) :
    (∀ e, Shape.broadcast [x.shape, y.shape] = .error e → x.zipWith y elem f = .error e) ∧
    ∀ r, Shape.broadcast [x.shape, y.shape] = .ok r →
      (¬ CombineFits x.shape y.shape r → x.zipWith y elem f = .error .overflow) ∧
      (CombineFits x.shape y.shape r → ∃ a b w left right,
        x.broadcastTo r = .ok a ∧ y.broadcastTo r = .ok b ∧
        x.zipWith y elem f = .ok w ∧
        w = withScalars elem r (List.zipWith f a.toList b.toList) ∧
        w.Valid ∧ w.elem = elem ∧ w.shape = r ∧
        (∀ k < Shape.count r, ∃ p q, a.flat? k = some p ∧ b.flat? k = some q ∧
          w.flat? k = some ((f p q).cast elem)) ∧
        x.stretchStrides r = .ok left ∧ y.stretchStrides r = .ok right ∧
        ∀ coord ∈ Shape.coordinates r, ∃ p q,
          x.flat? (Shape.offset coord left) = some p ∧ a.get coord = .ok p ∧
          y.flat? (Shape.offset coord right) = some q ∧ b.get coord = .ok q) := by
  refine ⟨fun e failed => by simp [Tensor.zipWith, failed], ?_⟩
  intro r meets
  refine ⟨fun tooLarge => zipWith_overflow meets tooLarge elem f, ?_⟩
  rintro ⟨readable, otherReadable, word⟩
  have admits := (Shape.isLeastCommon_of_broadcast meets).admits
  obtain ⟨left, a, leftStrides, leftStretched, leftElements, leftReads⟩ :=
    valid.represents.reads_stretched (admits x.shape (by simp)) readable word
  obtain ⟨right, b, rightStrides, rightStretched, rightElements, rightReads⟩ :=
    second.represents.reads_stretched (admits y.shape (by simp)) otherReadable word
  have result := leftElements.withScalars_zipWith rightElements elem f
  obtain ⟨w, combined, same⟩ := valid.represents.zipWith y y.elem y.shape r y.element
    second.represents (Shape.broadcast_eq_ok_iff.mp meets) readable otherReadable word elem f
  obtain rfl := same.unique _ result
  refine ⟨a, b, _, left, right, leftStretched, rightStretched, combined, rfl, result.valid,
    result.elem_eq, result.shape_eq, ?_, leftStrides, rightStrides, ?_⟩
  · intro k bound
    exact ⟨_, _, leftElements.flat?_unravel k bound, rightElements.flat?_unravel k bound,
      result.flat?_unravel k bound⟩
  · intro coord listed
    have inside := (Shape.mem_coordinates r coord).mp listed
    obtain ⟨leftRead, leftGet⟩ := leftReads coord inside
    obtain ⟨rightRead, rightGet⟩ := rightReads coord inside
    exact ⟨_, _, leftRead, leftGet, rightRead, rightGet⟩

/-- Three numbers in a row. -/
def threeBytes : Tensor := ⟨.u8, [3], .unsigned #[1, 2, 3]⟩

/-- A column of truth values and a row of numbers of another rank make a table. An array without
    elements cannot be combined with itself when its strides leave the word. -/
theorem zipWith_is_materialised_table :
    ∃ a b w, flags.broadcastTo [2, 3] = .ok a ∧ threeBytes.broadcastTo [2, 3] = .ok b ∧
      flags.zipWith threeBytes .i8 (fun p q => if p.isZero then q else .int 300) = .ok w ∧
      a.flat? 4 = some (.bool false) ∧ b.flat? 4 = some (.uint 2) ∧ w.flat? 4 = some (.int 2) ∧
      hollow.zipWith hollow .i8 (fun p _ => p) = .error .overflow := by
  obtain ⟨-, combines⟩ := zipWith_is_materialised flags threeBytes (by decide) (by decide) .i8
    (fun p q => if p.isZero then q else .int 300)
  obtain ⟨a, b, w, left, right, first, second, combined, -, -, -, -, each, -⟩ :=
    (combines [2, 3] (by decide)).2 (by decide)
  obtain ⟨-, hollows⟩ := zipWith_is_materialised hollow hollow (by decide) (by decide) .i8
    (fun p _ => p)
  obtain ⟨p, q, leftHere, rightHere, here⟩ := each 4 (by decide)
  have table : flags.broadcastTo [2, 3] =
      .ok ⟨.bool, [2, 3], .bool #[true, true, true, false, false, false]⟩ := by decide +kernel
  have rows : threeBytes.broadcastTo [2, 3] =
      .ok ⟨.u8, [2, 3], .unsigned #[1, 2, 3, 1, 2, 3]⟩ := by decide +kernel
  obtain rfl := Except.ok.inj (table.symm.trans first)
  obtain rfl := Except.ok.inj (rows.symm.trans second)
  obtain rfl : Scalar.bool false = p := Option.some.inj leftHere
  obtain rfl : Scalar.uint 2 = q := Option.some.inj rightHere
  exact ⟨_, _, w, table, rows, combined, leftHere, rightHere, here,
    (hollows [0, 2 ^ 32, 2 ^ 32] (by decide)).1 (by decide)⟩

end LoopKernels.Tensor
