import LoopKernels.Shape.Broadcast
import LoopKernels.Proofs.Shape.Numbering

/-!
# Stretching and common shapes

A shape stretches to a target when, aligned at the last axes, each of its lengths is
one or the length of the target. Reading through the strides of a stretched shape
means reading at the trailing entries of a coordinate, with zero on the axes of
length one. Several shapes have a common shape exactly when one shape has the
greatest of their ranks, receives them all, and takes each of its lengths other
than one from one of them; that shape is then the result.
-/

namespace LoopKernels.Shape

/-- The coordinate of a shape that a coordinate of a stretched shape reads: the trailing
    entries, with zero on every axis of length one. -/
def shrink (shape : Shape) (coord : Coord) : Coord :=
  List.zipWith (fun length index => if length = 1 then 0 else index) shape
    (coord.drop (coord.length - shape.length))

/-- Axis by axis, the lengths of a shape are one or those of a target of the same rank. -/
def Fits (shape target : Shape) : Prop :=
  shape.length = target.length ∧
    ∀ axis, axis < target.length → shape.getD axis 0 = 1 ∨ shape.getD axis 0 = target.getD axis 0

/-- Shapes fit when their first lengths and their other lengths do. -/
theorem fits_cons (length goal : Nat) (shape target : Shape) :
    Fits (length :: shape) (goal :: target) ↔ (length = 1 ∨ length = goal) ∧ Fits shape target := by
  constructor
  · rintro ⟨sameRank, each⟩
    refine ⟨by simpa using each 0 (by simp), by simpa using sameRank, ?_⟩
    intro axis bound
    simpa using each (axis + 1) (by simpa using bound)
  · rintro ⟨first, sameRank, each⟩
    refine ⟨by simp [sameRank], ?_⟩
    intro axis bound
    cases axis with
    | zero => simpa using first
    | succ axis => simpa using each axis (by simpa using bound)

/-- A shape fits itself. -/
theorem fits_refl (shape : Shape) : Fits shape shape := ⟨rfl, fun _ _ => .inr rfl⟩

/-- Strides exist for a shape of the rank of its target exactly when it fits. -/
theorem stretchAxes?_isSome (shape target : Shape) (sameRank : shape.length = target.length) :
    (stretchAxes? shape (strides shape) target).isSome = true ↔ Fits shape target := by
  induction shape generalizing target with
  | nil =>
    obtain rfl : target = [] := List.length_eq_zero_iff.mp sameRank.symm
    simp [stretchAxes?, Fits]
  | cons length shape inductionHypothesis =>
    cases target with
    | nil => simp at sameRank
    | cons goal target =>
      rw [fits_cons, ← inductionHypothesis target (by simpa using sameRank)]
      rw [strides_cons, stretchAxes?]
      cases stretchAxes? shape (strides shape) target with
      | none => simp
      | some rest =>
        by_cases equal : length = goal
        · simp [equal]
        · simp [equal]

/-- Under the strides of a stretched shape, a coordinate of the target has the offset of
    the coordinate it reads. A stretched axis contributes nothing on either side. -/
theorem stretchAxes?_offset (shape target : Shape) (steps : List Nat) (coord : Coord)
    (sameRank : shape.length = target.length)
    (stretched : stretchAxes? shape (strides shape) target = some steps)
    (inside : contains target coord = true) :
    contains shape (shrink shape coord) = true ∧
      offset coord steps = offset (shrink shape coord) (strides shape) := by
  induction shape generalizing target steps coord with
  | nil =>
    obtain rfl : target = [] := List.length_eq_zero_iff.mp sameRank.symm
    obtain rfl := (contains_nil coord).mp inside
    simp [shrink]
  | cons length shape inductionHypothesis =>
    cases target with
    | nil => simp at sameRank
    | cons goal target =>
      have tailRank : shape.length = target.length := by simpa using sameRank
      obtain ⟨index, rest, rfl, bound, within⟩ := (contains_cons_iff goal target coord).mp inside
      have restRank : rest.length = shape.length :=
        (length_of_contains target rest within).trans tailRank.symm
      have shrunk : shrink (length :: shape) (index :: rest) =
          (if length = 1 then 0 else index) :: shrink shape rest := by
        simp [shrink, restRank]
      rw [strides_cons, stretchAxes?] at stretched
      obtain ⟨others, tail, chosen⟩ := Option.bind_eq_some_iff.mp stretched
      obtain ⟨tailInside, tailOffset⟩ :=
        inductionHypothesis target others rest tailRank tail within
      rw [shrunk, strides_cons]
      by_cases equal : length = goal
      · obtain rfl : count shape :: others = steps := by simpa [equal] using chosen
        have entry : (if length = 1 then 0 else index) = index := by
          split <;> omega
        simp only [entry, contains_cons, offset_cons]
        exact ⟨⟨by omega, tailInside⟩, by rw [tailOffset]⟩
      · have unit : length = 1 := by
          by_cases unit : length = 1
          · exact unit
          · simp [equal, unit] at chosen
        obtain rfl : 0 :: others = steps := by
          rw [if_neg equal, if_pos unit] at chosen
          exact Option.some.inj chosen
        simp only [unit, if_true, contains_cons, offset_cons]
        exact ⟨⟨by omega, tailInside⟩, by simp [tailOffset]⟩

/-- Leading axes with stride zero contribute nothing. -/
theorem offset_replicate_zero (lead : Nat) (coord : Coord) (steps : List Nat) :
    offset coord (List.replicate lead 0 ++ steps) = offset (coord.drop lead) steps := by
  induction lead generalizing coord with
  | zero => rfl
  | succ lead inductionHypothesis =>
    cases coord with
    | nil => simp
    | cons index coord =>
      simp [List.replicate_succ, inductionHypothesis]

/-- The trailing entries of a coordinate lie inside the trailing axes of its shape. -/
theorem contains_drop (lead : Nat) (shape : Shape) (coord : Coord)
    (inside : contains shape coord = true) :
    contains (shape.drop lead) (coord.drop lead) = true := by
  induction lead generalizing shape coord with
  | zero => exact inside
  | succ lead inductionHypothesis =>
    cases shape with
    | nil => simp [(contains_nil coord).mp inside]
    | cons length shape =>
      obtain ⟨index, rest, rfl, _, within⟩ := (contains_cons_iff length shape coord).mp inside
      exact inductionHypothesis shape rest within

/-- Strides that read the elements of a shape as if they were those of the target, over the
    naturals: zero on the axes that stretch or are added in front. -/
def stretch? (shape target : Shape) : Option (List Nat) :=
  if target.length < shape.length then none
  else
    let lead := target.length - shape.length
    (stretchAxes? shape (strides shape) (target.drop lead)).map (List.replicate lead 0 ++ ·)

/-- Strides exist exactly when the target has at least the rank of the shape and the shape
    fits the trailing axes of the target. -/
theorem stretch?_isSome (shape target : Shape) :
    (stretch? shape target).isSome = true ↔
      shape.length ≤ target.length ∧ Fits shape (target.drop (target.length - shape.length)) := by
  by_cases lower : target.length < shape.length
  · simp only [stretch?, lower, if_true, Option.isSome_none, Bool.false_eq_true, false_iff]
    omega
  · have trailing : shape.length = (target.drop (target.length - shape.length)).length := by
      simp only [List.length_drop]
      omega
    simp only [stretch?, lower, if_false, Option.isSome_map]
    rw [stretchAxes?_isSome _ _ trailing]
    exact ⟨fun fits => ⟨by omega, fits⟩, fun both => both.2⟩

/-- Reading through the strides of a stretched shape is reading at the shrunk coordinate. -/
theorem stretch?_offset (shape target : Shape) (steps : List Nat) (coord : Coord)
    (stretched : stretch? shape target = some steps) (inside : contains target coord = true) :
    contains shape (shrink shape coord) = true ∧
      offset coord steps = offset (shrink shape coord) (strides shape) := by
  have coordRank : coord.length = target.length := length_of_contains target coord inside
  by_cases lower : target.length < shape.length
  · simp [stretch?, lower] at stretched
  · simp only [stretch?, lower, if_false] at stretched
    obtain ⟨others, trailing, rfl⟩ := Option.map_eq_some_iff.mp stretched
    have sameRank : shape.length = (target.drop (target.length - shape.length)).length := by
      simp only [List.length_drop]
      omega
    have trailingInside := contains_drop (target.length - shape.length) target coord inside
    obtain ⟨shrunkInside, shrunkOffset⟩ :=
      stretchAxes?_offset shape _ others _ sameRank trailing trailingInside
    have shrunk :
        shrink shape (coord.drop (target.length - shape.length)) = shrink shape coord := by
      have none : target.length - (target.length - shape.length) - shape.length = 0 := by omega
      simp [shrink, coordRank, none]
    rw [shrunk] at shrunkInside shrunkOffset
    rw [offset_replicate_zero]
    exact ⟨shrunkInside, shrunkOffset⟩

/-- The common length of two lengths: it receives both and is one of them. -/
theorem meetAxis?_eq_some (current length met : Nat) :
    meetAxis? current length = some met ↔
      (current = 1 ∨ current = met) ∧ (length = 1 ∨ length = met) ∧
        (met = current ∨ met = length) := by
  simp only [meetAxis?]
  split
  · simp only [Option.some.injEq]
    omega
  · split
    · simp only [reduceCtorEq, false_iff]
      omega
    · simp only [Option.some.injEq]
      omega

/-- A length that stretches to a second one stretches to whatever the second stretches to. -/
theorem stretch_trans {first second third : Nat} (left : first = 1 ∨ first = second)
    (right : second = 1 ∨ second = third) : first = 1 ∨ first = third := by
  omega

/-- Two shapes of one rank meet axis by axis. -/
theorem meet?_eq_some (current other met : Shape) (sameRank : other.length = current.length) :
    meet? current other = some met ↔
      met.length = current.length ∧ ∀ axis, axis < current.length →
        meetAxis? (current.getD axis 0) (other.getD axis 0) = some (met.getD axis 0) := by
  induction current generalizing other met with
  | nil =>
    obtain rfl : other = [] := List.length_eq_zero_iff.mp sameRank
    simp [meet?, List.length_eq_zero_iff, eq_comm]
  | cons length current inductionHypothesis =>
    cases other with
    | nil => simp at sameRank
    | cons second other =>
      have tailRank : other.length = current.length := by simpa using sameRank
      simp only [meet?, Option.bind_eq_bind, Option.bind_eq_some_iff, Option.pure_def,
        Option.some.injEq]
      constructor
      · rintro ⟨first, firstMet, rest, tail, rfl⟩
        obtain ⟨restRank, each⟩ := (inductionHypothesis other rest tailRank).mp tail
        refine ⟨by simp [restRank], ?_⟩
        intro axis bound
        cases axis with
        | zero => simpa using firstMet
        | succ axis => simpa using each axis (by simpa using bound)
      · rintro ⟨metRank, each⟩
        cases met with
        | nil => simp at metRank
        | cons first rest =>
          refine ⟨first, by simpa using each 0 (by simp), rest, ?_, rfl⟩
          refine (inductionHypothesis other rest tailRank).mpr
            ⟨by simpa using metRank, ?_⟩
          intro axis bound
          simpa using each (axis + 1) (by simpa using bound)

/-- The lengths after two shapes of one rank have met: wherever the first has length one, the
    second counts. -/
def joined (current shape : Shape) : Shape :=
  List.zipWith (fun a b => if a = 1 then b else a) current shape

/-- Joining keeps the rank. -/
theorem joined_length (current shape : Shape) (sameRank : shape.length = current.length) :
    (joined current shape).length = current.length := by
  simp [joined, sameRank]

/-- A joined length is the current one, or the other one where the current one is one. -/
theorem getD_joined (current shape : Shape) (sameRank : shape.length = current.length)
    (axis : Nat) (bound : axis < current.length) :
    (joined current shape).getD axis 0 =
      if current.getD axis 0 = 1 then shape.getD axis 0 else current.getD axis 0 := by
  have other : axis < shape.length := by omega
  simp only [joined, List.getD_eq_getElem?_getD, List.getElem?_zipWith, bound, other,
    List.getElem?_eq_getElem, Option.getD_some]

/-- Shapes of one rank, met one after the other, give the shape that receives them all and
    takes each length from one of them.

    Induction on the shapes still to come. The shape met so far stands for those before it:
    it receives them, and its lengths are among theirs. -/
theorem foldlM_meet?_eq_some (shapes : List Shape) (current met : Shape)
    (sameRank : ∀ shape ∈ shapes, shape.length = current.length) :
    shapes.foldlM meet? current = some met ↔
      met.length = current.length ∧ ∀ axis, axis < current.length →
        (current.getD axis 0 = 1 ∨ current.getD axis 0 = met.getD axis 0) ∧
        (∀ shape ∈ shapes, shape.getD axis 0 = 1 ∨ shape.getD axis 0 = met.getD axis 0) ∧
        (met.getD axis 0 = current.getD axis 0 ∨
          ∃ shape ∈ shapes, met.getD axis 0 = shape.getD axis 0) := by
  induction shapes generalizing current with
  | nil =>
    simp only [List.foldlM_nil, Option.pure_def, Option.some.injEq, List.not_mem_nil,
      false_implies, implies_true, true_and, false_and, exists_false, or_false]
    constructor
    · rintro rfl
      exact ⟨rfl, fun _ _ => ⟨.inr rfl, rfl⟩⟩
    · rintro ⟨rank, each⟩
      refine List.ext_getElem rank.symm ?_
      intro axis here there
      simpa [List.getD_eq_getElem?_getD, here, there] using (each axis here).2.symm
  | cons shape shapes inductionHypothesis =>
    have headRank : shape.length = current.length := sameRank shape List.mem_cons_self
    simp only [List.foldlM_cons, Option.bind_eq_bind, Option.bind_eq_some_iff]
    constructor
    · rintro ⟨between, step, rest⟩
      obtain ⟨rank, joined⟩ := (meet?_eq_some current shape between headRank).mp step
      obtain ⟨metRank, each⟩ := (inductionHypothesis between fun other member =>
        (sameRank other (List.mem_cons_of_mem shape member)).trans rank.symm).mp rest
      refine ⟨metRank.trans rank, ?_⟩
      intro axis bound
      obtain ⟨currentFits, shapeFits, origin⟩ :=
        (meetAxis?_eq_some _ _ _).mp (joined axis bound)
      obtain ⟨betweenFits, othersFit, source⟩ := each axis (by omega)
      refine ⟨stretch_trans currentFits betweenFits, fun other member => ?_, ?_⟩
      · rcases List.mem_cons.mp member with rfl | later
        · exact stretch_trans shapeFits betweenFits
        · exact othersFit other later
      · rcases source with here | ⟨other, later, same⟩
        · rcases origin with first | second
          · exact .inl (here.trans first)
          · exact .inr ⟨shape, List.mem_cons_self, here.trans second⟩
        · exact .inr ⟨other, List.mem_cons_of_mem shape later, same⟩
    · rintro ⟨metRank, each⟩
      have betweenRank := joined_length current shape headRank
      refine ⟨joined current shape, ?_, ?_⟩
      · refine (meet?_eq_some current shape _ headRank).mpr ⟨betweenRank, ?_⟩
        intro axis bound
        obtain ⟨currentFits, othersFit, -⟩ := each axis bound
        have shapeFits := othersFit shape List.mem_cons_self
        rw [getD_joined current shape headRank axis bound, meetAxis?_eq_some]
        split <;> omega
      · refine (inductionHypothesis (joined current shape) fun other member =>
          (sameRank other (List.mem_cons_of_mem shape member)).trans betweenRank.symm).mpr
          ⟨metRank.trans betweenRank.symm, ?_⟩
        intro axis bound
        rw [betweenRank] at bound
        obtain ⟨currentFits, othersFit, source⟩ := each axis bound
        have shapeFits := othersFit shape List.mem_cons_self
        rw [getD_joined current shape headRank axis bound]
        refine ⟨?_, fun other member => othersFit other (List.mem_cons_of_mem shape member), ?_⟩
        · split
          · exact shapeFits
          · exact currentFits
        rcases source with here | ⟨other, member, same⟩
        · left
          split <;> omega
        · rcases List.mem_cons.mp member with rfl | later
          · left
            split <;> omega
          · exact .inr ⟨other, later, same⟩

/-- The greatest rank bounds every rank and is reached unless it is zero. -/
theorem maxRank_spec (shapes : List Shape) :
    (∀ shape ∈ shapes, shape.length ≤ maxRank shapes) ∧
      ∀ bound, (∀ shape ∈ shapes, shape.length ≤ bound) → maxRank shapes ≤ bound := by
  have general : ∀ start : Nat,
      (start ≤ shapes.foldl (fun rank shape => max rank shape.length) start ∧
        ∀ shape ∈ shapes,
          shape.length ≤ shapes.foldl (fun rank shape => max rank shape.length) start) ∧
      ∀ bound, start ≤ bound → (∀ shape ∈ shapes, shape.length ≤ bound) →
        shapes.foldl (fun rank shape => max rank shape.length) start ≤ bound := by
    induction shapes with
    | nil => simp
    | cons shape shapes inductionHypothesis =>
      intro start
      obtain ⟨⟨above, each⟩, least⟩ := inductionHypothesis (max start shape.length)
      refine ⟨⟨Nat.le_trans (Nat.le_max_left _ _) above, fun other member => ?_⟩,
        fun bound low every => ?_⟩
      · rcases List.mem_cons.mp member with rfl | later
        · exact Nat.le_trans (Nat.le_max_right _ _) above
        · exact each other later
      · exact least bound (Nat.max_le.mpr ⟨low, every shape List.mem_cons_self⟩)
          fun other member => every other (List.mem_cons_of_mem shape member)
  exact ⟨(general 0).1.2, fun bound every => (general 0).2 bound (Nat.zero_le bound) every⟩

/-- A padded shape has the rank it is padded to. -/
theorem padTo_length (rank : Nat) (shape : Shape) (bound : shape.length ≤ rank) :
    (padTo rank shape).length = rank := by
  simp only [padTo, List.length_append, List.length_replicate]
  omega

/-- A shape of the full rank needs no padding. -/
theorem padTo_self (shape : Shape) : padTo shape.length shape = shape := by
  simp [padTo]

/-- The common shape of several shapes has their greatest rank, receives each of them, and
    takes every length other than one from one of them. No other shape does. -/
theorem broadcast?_eq_some (shapes : List Shape) (common : Shape) :
    broadcast? shapes = some common ↔
      common.length = maxRank shapes ∧
        ∀ axis, axis < common.length →
          (∀ shape ∈ shapes, (padTo common.length shape).getD axis 0 = 1 ∨
            (padTo common.length shape).getD axis 0 = common.getD axis 0) ∧
          (common.getD axis 0 = 1 ∨
            ∃ shape ∈ shapes, common.getD axis 0 = (padTo common.length shape).getD axis 0) := by
  have padded : ∀ shape ∈ shapes.map (padTo (maxRank shapes)),
      shape.length = (List.replicate (maxRank shapes) 1).length := by
    intro shape member
    obtain ⟨source, sourceMember, rfl⟩ := List.mem_map.mp member
    rw [padTo_length _ _ ((maxRank_spec shapes).1 source sourceMember), List.length_replicate]
  have ones : ∀ axis, axis < maxRank shapes →
      (List.replicate (maxRank shapes) 1).getD axis 0 = 1 := by
    intro axis bound
    simp [List.getD_eq_getElem?_getD, bound]
  rw [broadcast?, foldlM_meet?_eq_some _ _ _ padded, List.length_replicate]
  refine and_congr_right ?_
  intro rank
  rw [rank]
  refine forall_congr' fun axis => imp_congr_right ?_
  intro bound
  rw [ones axis bound, List.forall_mem_map]
  simp only [true_or, true_and]
  refine and_congr_right fun _ => or_congr_right ?_
  constructor
  · rintro ⟨_, member, same⟩
    obtain ⟨shape, here, rfl⟩ := List.mem_map.mp member
    exact ⟨shape, here, same⟩
  · rintro ⟨shape, here, same⟩
    exact ⟨_, List.mem_map_of_mem here, same⟩

/-- Every shape stretches to the common shape. -/
theorem stretch?_of_broadcast? (shapes : List Shape) (common shape : Shape)
    (found : broadcast? shapes = some common) (member : shape ∈ shapes) :
    (stretch? shape common).isSome = true := by
  obtain ⟨rank, each⟩ := (broadcast?_eq_some shapes common).mp found
  have lower : shape.length ≤ common.length := rank ▸ (maxRank_spec shapes).1 shape member
  rw [stretch?_isSome]
  refine ⟨lower, by simp only [List.length_drop]; omega, ?_⟩
  intro axis bound
  rw [List.length_drop] at bound
  have aligned := (each (common.length - shape.length + axis) (by omega)).1 shape member
  have trailing : (padTo common.length shape).getD (common.length - shape.length + axis) 0 =
      shape.getD axis 0 := by
    simp [padTo, List.getD_eq_getElem?_getD, List.getElem?_append_right]
  have target : (common.drop (common.length - shape.length)).getD axis 0 =
      common.getD (common.length - shape.length + axis) 0 := by
    simp [List.getD_eq_getElem?_getD]
  rwa [trailing, ← target] at aligned

/-- For shapes of one rank the common shape is found without padding. -/
theorem broadcast?_sameRank (shapes : List Shape) (rank : Nat) (common : Shape)
    (inhabited : shapes ≠ []) (sameRank : ∀ shape ∈ shapes, shape.length = rank) :
    broadcast? shapes = some common ↔
      common.length = rank ∧ (∀ shape ∈ shapes, Fits shape common) ∧
        ∀ axis, axis < rank → common.getD axis 0 = 1 ∨
          ∃ shape ∈ shapes, common.getD axis 0 = shape.getD axis 0 := by
  obtain ⟨first, member⟩ := List.exists_mem_of_ne_nil shapes inhabited
  have greatest : maxRank shapes = rank := by
    obtain ⟨above, least⟩ := maxRank_spec shapes
    have lower := above first member
    rw [sameRank first member] at lower
    exact Nat.le_antisymm (least rank fun shape here => Nat.le_of_eq (sameRank shape here)) lower
  rw [broadcast?_eq_some, greatest]
  refine and_congr_right ?_
  intro commonRank
  have unpadded : ∀ shape ∈ shapes, padTo common.length shape = shape := by
    intro shape here
    rw [commonRank, ← sameRank shape here, padTo_self]
  constructor
  · intro each
    refine ⟨fun shape here => ⟨(sameRank shape here).trans commonRank.symm, fun axis bound => ?_⟩,
      fun axis bound => ?_⟩
    · simpa [unpadded shape here] using (each axis bound).1 shape here
    · rcases (each axis (by omega)).2 with one | ⟨shape, here, same⟩
      · exact .inl one
      · exact .inr ⟨shape, here, by simpa [unpadded shape here] using same⟩
  · rintro ⟨fits, source⟩ axis bound
    refine ⟨fun shape here => ?_, ?_⟩
    · simpa [unpadded shape here] using (fits shape here).2 axis bound
    · rcases source axis (by omega) with one | ⟨shape, here, same⟩
      · exact .inl one
      · exact .inr ⟨shape, here, by simpa [unpadded shape here] using same⟩

/-- A shape that receives all the others is their common shape. -/
theorem broadcast?_of_mem (shapes : List Shape) (common : Shape) (member : common ∈ shapes)
    (ranks : ∀ shape ∈ shapes, shape.length ≤ common.length)
    (fits : ∀ shape ∈ shapes, Fits (padTo common.length shape) common) :
    broadcast? shapes = some common := by
  obtain ⟨above, least⟩ := maxRank_spec shapes
  have greatest : common.length = maxRank shapes :=
    Nat.le_antisymm (above common member) (least common.length ranks)
  refine (broadcast?_eq_some shapes common).mpr ⟨greatest, fun axis bound => ⟨?_, ?_⟩⟩
  · intro shape here
    exact (fits shape here).2 axis bound
  · exact .inr ⟨common, member, by rw [padTo_self]⟩

/-- A shape in which one length is replaced by one fits. -/
theorem fits_set_one (shape : Shape) (axis : Nat) : Fits (shape.set axis 1) shape := by
  refine ⟨List.length_set, ?_⟩
  intro other bound
  by_cases same : axis = other
  · subst same
    simp [List.getD_eq_getElem?_getD, bound]
  · simp [List.getD_eq_getElem?_getD, List.getElem?_set_ne same]

/-- A shape without axes fits every shape. -/
theorem fits_padTo_nil (shape : Shape) : Fits (padTo shape.length []) shape := by
  refine ⟨by simp [padTo], fun axis bound => .inl ?_⟩
  simp [padTo, List.getD_eq_getElem?_getD, bound]

/-- Where one length is replaced by one, reading leaves out the index on that axis. -/
theorem shrink_set_one (shape : Shape) (axis : Nat) (coord : Coord)
    (inside : contains shape coord = true) :
    shrink (shape.set axis 1) coord = coord.set axis 0 := by
  have rank := length_of_contains shape coord inside
  rw [shrink, List.length_set, rank, Nat.sub_self, List.drop_zero]
  induction shape generalizing axis coord with
  | nil => simp_all
  | cons length shape inductionHypothesis =>
    obtain ⟨index, rest, rfl, below, behind⟩ := (contains_cons_iff length shape coord).mp inside
    have restRank := length_of_contains shape rest behind
    have kept : (if length = 1 then 0 else index) = index := by
      split <;> omega
    cases axis with
    | zero =>
      have others := inductionHypothesis shape.length rest behind restRank
      rw [List.set_eq_of_length_le (Nat.le_refl _), List.set_eq_of_length_le (by omega)] at others
      simp [others]
    | succ axis =>
      have others := inductionHypothesis axis rest behind restRank
      simp [kept, others]

/-- A coordinate inside a shape is read as it is. -/
theorem shrink_self (shape : Shape) (coord : Coord) (inside : contains shape coord = true) :
    shrink shape coord = coord := by
  have beyond := shrink_set_one shape shape.length coord inside
  rwa [List.set_eq_of_length_le (Nat.le_refl _),
    List.set_eq_of_length_le (Nat.le_of_eq (length_of_contains shape coord inside))] at beyond

end LoopKernels.Shape
