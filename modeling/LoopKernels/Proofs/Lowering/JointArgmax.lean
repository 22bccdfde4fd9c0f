import LoopKernels.Proofs.Lane.Apply
import LoopKernels.Proofs.Lane.Argmax
import LoopKernels.Proofs.Lowering.AxisListing

/-!
# The greatest element over several axes

An argmax moves the reduced axes behind the kept ones and flattens them, so the lane at a
coordinate of the kept axes lists the elements with these entries, in the order of their
entries on the reduced axes. The scan of the lane gives a place in it, and the coordinate that
stands at this place is the first of the greatest: no element with the same kept entries is a
NaN or lies above it, or it is a NaN itself, and every other such coordinate comes later. The
order of the elements is linear for every element type, doubles included.

The axes are moved through the strides of the array, unless they stand in their order already, and
the reduced axes and the flattened shape are counted. Where one of these is no word, nothing is
scanned.
-/

namespace LoopKernels.Lowering.ArgmaxPlan

open Tensor (pick unpick IsPermutation)

variable {kept reduced : List Nat} {x : Tensor} {rest : Coord}

/-! ## Coordinates in two parts -/

/-- The kept axes and the reduced ones are all axes. -/
theorem isPermutation_axes (axes : Option (List Nat)) (rank : Nat) :
    IsPermutation (keptAxes axes rank ++ reducedAxes axes rank) rank := by
  refine Tensor.isPermutation_append (List.nodup_range.filter _) (List.nodup_range.filter _) ?_ ?_
  · intro axis apart listed
    have left := (List.mem_filter.mp apart).2
    have right := (List.mem_filter.mp listed).2
    simp_all
  · intro axis
    have every : axis ∈ Axis.every rank ↔ axis < rank := List.mem_range
    by_cases listed : axis ∈ axes.getD (Axis.every rank)
    · simp [keptAxes, reducedAxes, Axis.others, listed, every]
    · simp [keptAxes, reducedAxes, Axis.others, listed, every]

/-- Entries on the kept axes and on the reduced ones make a coordinate. -/
theorem contains_unpick_append (permutes : IsPermutation (kept ++ reduced) x.rank)
    (inside : Shape.contains (pick x.shape kept) rest = true) (back : Coord)
    (backInside : Shape.contains (pick x.shape reduced) back = true) :
    Shape.contains x.shape (unpick (kept ++ reduced) (rest ++ back)) = true ∧
      pick (unpick (kept ++ reduced) (rest ++ back)) kept = rest ∧
      pick (unpick (kept ++ reduced) (rest ++ back)) reduced = back := by
  have length := Shape.length_of_contains _ rest inside
  have backLength := Shape.length_of_contains _ back backInside
  have whole : Shape.contains (pick x.shape (kept ++ reduced)) (rest ++ back) = true := by
    rw [Tensor.pick_append]
    exact (Shape.contains_append _ _ rest back length).mpr ⟨inside, backInside⟩
  have total : (rest ++ back).length = x.rank := by
    rw [← permutes.1, Shape.length_of_contains _ _ whole, pick, List.length_map]
  have parts := permutes.pick_unpick (rest ++ back) total
  rw [Tensor.pick_append] at parts
  have split := List.append_inj parts (by simp [length, pick])
  exact ⟨permutes.contains_unpick x.shape rfl _ whole, split⟩

/-- A coordinate is made of its entries on the kept axes and on the reduced ones. -/
theorem unpick_append_pick (permutes : IsPermutation (kept ++ reduced) x.rank) (coord : Coord)
    (inside : Shape.contains x.shape coord = true) :
    unpick (kept ++ reduced) (pick coord kept ++ pick coord reduced) = coord := by
  rw [← Tensor.pick_append]
  exact permutes.unpick_pick coord (Shape.length_of_contains _ coord inside)

/-! ## Lanes -/

/-- The elements with the given entries on the kept axes, in the order of their entries on the
    reduced axes. -/
def jointLane (x : Tensor) (kept reduced : List Nat) (rest : Coord) : List Scalar :=
  (Shape.coordinates (pick x.shape reduced)).map fun back =>
    x.element (unpick (kept ++ reduced) (rest ++ back))

/-- The number of a coordinate's entries on the reduced axes. -/
def place (shape : Shape) (reduced : List Nat) (coord : Coord) : Nat :=
  Shape.offset (pick coord reduced) (Shape.strides (pick shape reduced))

/-- The element at a coordinate is a NaN, or no element with the same entries on the kept axes
    is a NaN and none of them lies above it. -/
def Wins (x : Tensor) (kept : List Nat) (coord : Coord) : Prop :=
  Shape.contains x.shape coord = true ∧
    ((x.element coord).isNaN = true ∨
      ∀ other, Shape.contains x.shape other = true → pick other kept = pick coord kept →
        (x.element other).isNaN = false ∧ (x.element coord).below (x.element other) = false)

/-- The lane holds exactly the elements with the given kept entries. -/
theorem mem_jointLane (permutes : IsPermutation (kept ++ reduced) x.rank)
    (inside : Shape.contains (pick x.shape kept) rest = true) (s : Scalar) :
    s ∈ jointLane x kept reduced rest ↔
      ∃ coord, Shape.contains x.shape coord = true ∧ pick coord kept = rest ∧
        x.element coord = s := by
  rw [jointLane, List.mem_map]
  constructor
  · rintro ⟨back, listed, rfl⟩
    obtain ⟨coordInside, front, -⟩ := contains_unpick_append permutes inside back
      ((Shape.mem_coordinates _ back).mp listed)
    exact ⟨_, coordInside, front, rfl⟩
  · rintro ⟨coord, coordInside, rfl, rfl⟩
    refine ⟨pick coord reduced, ?_, by rw [unpick_append_pick permutes coord coordInside]⟩
    rw [Shape.mem_coordinates]
    refine Tensor.contains_pick x.shape coord coordInside reduced ?_
    intro axis listed
    exact permutes.2.1 axis (List.mem_append_right _ listed)

/-- The element at a coordinate stands in its lane at the number of the coordinate's entries on
    the reduced axes. -/
theorem getElem?_jointLane (permutes : IsPermutation (kept ++ reduced) x.rank) (coord : Coord)
    (inside : Shape.contains x.shape coord = true) :
    (jointLane x kept reduced (pick coord kept))[place x.shape reduced coord]? =
      some (x.element coord) := by
  have back : Shape.contains (pick x.shape reduced) (pick coord reduced) = true :=
    Tensor.contains_pick x.shape coord inside reduced fun axis listed =>
      permutes.2.1 axis (List.mem_append_right _ listed)
  rw [jointLane, place, List.getElem?_map, Shape.getElem?_coordinates _ _ back, Option.map_some,
    unpick_append_pick permutes coord inside]

/-- A coordinate wins in the array exactly when its place wins in its lane. -/
theorem wins_place_iff (permutes : IsPermutation (kept ++ reduced) x.rank) (coord : Coord)
    (inside : Shape.contains x.shape coord = true)
    (front : Shape.contains (pick x.shape kept) (pick coord kept) = true) :
    Argmax.Wins (jointLane x kept reduced (pick coord kept)) (place x.shape reduced coord) ↔
      Wins x kept coord := by
  have lane := mem_jointLane permutes front
  rw [Argmax.Wins, getElem?_jointLane permutes coord inside]
  simp only [Option.some.injEq, exists_eq_left', Wins, inside, true_and, lane]
  refine or_congr_right ?_
  constructor
  · intro greatest other otherInside same
    exact greatest _ ⟨other, otherInside, same, rfl⟩
  · rintro greatest _ ⟨other, otherInside, same, rfl⟩
    exact greatest other otherInside same

/-- The first place that wins in a lane is that of the first coordinate that wins. -/
theorem exists_first (permutes : IsPermutation (kept ++ reduced) x.rank)
    (inside : Shape.contains (pick x.shape kept) rest = true) (number : Nat)
    (first : Argmax.First (jointLane x kept reduced rest) number) :
    ∃ coord, Wins x kept coord ∧ pick coord kept = rest ∧ place x.shape reduced coord = number ∧
      ∀ other, Wins x kept other → pick other kept = rest →
        number ≤ place x.shape reduced other := by
  obtain ⟨wins, earlier⟩ := first
  have bound : number < Shape.count (pick x.shape reduced) := by
    obtain ⟨s, found, -⟩ := wins
    have below := (List.getElem?_eq_some_iff.mp found).1
    simpa [jointLane] using below
  obtain ⟨backInside, numbered⟩ := Shape.contains_unravel _ number bound
  obtain ⟨coordInside, front, back⟩ := contains_unpick_append permutes inside _ backInside
  have there : place x.shape reduced
      (unpick (kept ++ reduced) (rest ++ Shape.unravel number (pick x.shape reduced))) =
        number := by
    rw [place, back, numbered]
  refine ⟨_, ?_, front, there, ?_⟩
  · rw [← wins_place_iff permutes _ coordInside (front.symm ▸ inside), front, there]
    exact wins
  · rintro other otherWins rfl
    refine Nat.le_of_not_lt fun before => earlier _ before ?_
    exact (wins_place_iff permutes other otherWins.1 inside).mpr otherWins

/-! ## Runs -/

/-- Behind a coordinate of the kept axes, the flattened array holds the joint lane. -/
theorem toList_laneAlong_flat {flat : Tensor} {elem : ElemType} {front back : Shape}
    (value : Coord → Scalar)
    (represents : flat.Represents elem (front ++ [Shape.count back]) fun coord =>
      value (coord.take front.length ++ Shape.unravel (coord.getD front.length 0) back))
    (rest : Coord) (inside : Shape.contains front rest = true) :
    (flat.laneAlong front.length rest).toList =
      (Shape.coordinates back).map fun coord => value (rest ++ coord) := by
  have length := Shape.length_of_contains front rest inside
  have others : flat.shape.eraseIdx front.length = front := by
    rw [represents.shape_eq, List.eraseIdx_append_of_length_le (Nat.le_refl _)]
    simp
  have last : flat.shape.getD front.length 0 = Shape.count back := by
    rw [represents.shape_eq]
    simp
  have bound : front.length < flat.rank := by
    rw [Tensor.rank, represents.shape_eq]
    simp
  have lane := represents.valid.laneAlong_represents front.length bound rest
    (others.symm ▸ inside)
  rw [Tensor.toList, lane.toList_eq, last, Shape.coordinates_one, Shape.coordinates_eq,
    List.map_map, List.map_map]
  refine List.map_congr_left ?_
  intro number listed
  have there : Shape.contains (front ++ [Shape.count back]) (rest ++ [number]) = true :=
    (Shape.contains_append front _ rest _ length).mpr
      ⟨inside, by simpa using List.mem_range.mp listed⟩
  have entry : rest.insertIdx front.length number = rest ++ [number] := by
    rw [← length, List.insertIdx_length_self]
  simp only [Function.comp_apply, alongLane, List.getD_cons_zero, entry]
  rw [represents.element_eq _ there, ← length, List.take_left]
  simp

/-- The axes stand in their order or the strides of the shape are words, and so are the products
    that count the reduced axes and the flattened shape. -/
def JointFits (shape : Shape) (kept reduced : List Nat) : Prop :=
  Tensor.TransposeFits shape (kept ++ reduced) ∧ Shape.CountFits (pick shape reduced) ∧
    Shape.CountFits (pick shape kept ++ [Shape.count (pick shape reduced)])

instance (shape : Shape) (kept reduced : List Nat) : Decidable (JointFits shape kept reduced) :=
  inferInstanceAs (Decidable (_ ∧ _ ∧ _))

/-- An array without an empty axis can be moved and flattened. -/
theorem jointFits_of_full {shape : Shape} (permutes : IsPermutation (kept ++ reduced) shape.length)
    (full : 0 ∉ shape) (counted : shape.count < Word.limit) : JointFits shape kept reduced := by
  have total : Shape.count (pick shape kept) * Shape.count (pick shape reduced) = shape.count := by
    rw [← Shape.count_append, ← Tensor.pick_append, permutes.count_pick shape rfl]
  have positive : 0 < Shape.count (pick shape kept) * Shape.count (pick shape reduced) := by
    rw [total]
    exact Nat.pos_of_ne_zero fun none => full ((Shape.count_eq_zero shape).mp none)
  obtain ⟨someKept, someReduced⟩ := Nat.mul_ne_zero_iff.mp positive.ne'
  refine ⟨.inr (Shape.stridesFit_of_full full counted), Shape.countFits_of_full ?_ ?_,
    Shape.countFits_of_full ?_ ?_⟩
  · exact fun empty => someReduced ((Shape.count_eq_zero _).mpr empty)
  · exact Nat.lt_of_le_of_lt (Nat.le_mul_of_pos_left _ (Nat.pos_of_ne_zero someKept))
      (total ▸ counted)
  · intro empty
    rcases List.mem_append.mp empty with front | back
    · exact someKept ((Shape.count_eq_zero _).mpr front)
    · exact someReduced (List.mem_singleton.mp back).symm
  · simpa [Shape.count_append, total] using counted

/-- At each coordinate of the kept axes the joint lane is scanned. -/
theorem runJoint_eq (valid : x.Valid) (permutes : IsPermutation (kept ++ reduced) x.rank)
    (fits : JointFits x.shape kept reduced) :
    ∃ lane : Coord → Tensor,
      (∀ rest, Shape.contains (pick x.shape kept) rest = true →
        (lane rest).toList = jointLane x kept reduced rest) ∧
      runJoint (kept ++ reduced) kept.length (lanes kept.length) x =
        ((Shape.coordinates (pick x.shape kept)).mapM fun rest => Argmax.lane (lane rest)).map
          (Tensor.withScalars .i64 (pick x.shape kept)) := by
  have keptLength : (pick x.shape kept).length = kept.length := List.length_map _
  obtain ⟨transposed, moved, represents⟩ := valid.represents.transpose permutes fits.1
  rw [Tensor.pick_append] at represents
  obtain ⟨flat, reshaped, elements⟩ := represents.flatten fits.2.2
  have front : transposed.shape.take kept.length = pick x.shape kept := by
    rw [represents.shape_eq, ← keptLength, List.take_left]
  have back : transposed.shape.drop kept.length = pick x.shape reduced := by
    rw [represents.shape_eq, ← keptLength, List.drop_left]
  have others : flat.shape.eraseIdx kept.length = pick x.shape kept := by
    rw [elements.shape_eq, ← keptLength, List.eraseIdx_append_of_length_le (Nat.le_refl _)]
    simp
  have rank : flat.rank = kept.length + 1 := by
    rw [Tensor.rank, elements.shape_eq]
    simp [keptLength]
  refine ⟨flat.laneAlong kept.length, ?_, ?_⟩
  · intro rest inside
    rw [← keptLength]
    exact toList_laneAlong_flat (fun coord => x.element (unpick (kept ++ reduced) coord)) elements
      rest inside
  · have cut : flat.shape.LaneFits kept.length :=
      ⟨.inl rank.symm, others.symm ▸ fits.2.2.of_append⟩
    have applied : (lanes kept.length).apply flat = _ :=
      AxisApply.apply_eq elements.valid rank (Nat.lt_succ_self kept.length) cut
    rw [show (lanes kept.length).axis = kept.length from rfl, others] at applied
    rw [runJoint, if_neg (not_not.mpr permutes.1.symm),
      (Outcome.ofTensor_eq_ok _ _).mpr moved]
    simp only [Outcome.bind_ok, front, back, Shape.elementCount_eq, if_pos fits.2.1,
      Outcome.ofTensor_ok, (Outcome.ofTensor_eq_ok _ _).mpr reshaped]
    exact applied

/-- Otherwise nothing is scanned. -/
theorem runJoint_overflow (valid : x.Valid) (permutes : IsPermutation (kept ++ reduced) x.rank)
    (along : AxisApply) (tooLarge : ¬ JointFits x.shape kept reduced) :
    runJoint (kept ++ reduced) kept.length along x = .error (.inTensor .overflow) := by
  rw [runJoint, if_neg (not_not.mpr permutes.1.symm)]
  by_cases movable : Tensor.TransposeFits x.shape (kept ++ reduced)
  · obtain ⟨transposed, moved, represents⟩ := valid.represents.transpose permutes movable
    have keptLength : (pick x.shape kept).length = kept.length := List.length_map _
    rw [Tensor.pick_append] at represents
    have front : transposed.shape.take kept.length = pick x.shape kept := by
      rw [represents.shape_eq, ← keptLength, List.take_left]
    have back : transposed.shape.drop kept.length = pick x.shape reduced := by
      rw [represents.shape_eq, ← keptLength, List.drop_left]
    simp only [(Outcome.ofTensor_eq_ok _ _).mpr moved, Outcome.bind_ok, front, back]
    by_cases counted : Shape.CountFits (pick x.shape reduced)
    · have uncounted := fun flat => tooLarge ⟨movable, counted, flat⟩
      simp only [Shape.elementCount_eq, if_pos counted, Outcome.ofTensor_ok, Outcome.bind_ok,
        Tensor.reshape, if_neg uncounted]
      rfl
    · rw [Shape.elementCount_eq, if_neg counted]
      rfl
  · rw [Tensor.transpose_overflow permutes movable]
    rfl

/-- Where a lane is empty there is no greatest element. -/
theorem runJoint_empty (valid : x.Valid) (permutes : IsPermutation (kept ++ reduced) x.rank)
    (fits : JointFits x.shape kept reduced)
    (inside : Shape.contains (pick x.shape kept) rest = true)
    (empty : Shape.count (pick x.shape reduced) = 0) :
    runJoint (kept ++ reduced) kept.length (lanes kept.length) x = .error .emptyArgmax := by
  obtain ⟨lane, scanned, run⟩ := runJoint_eq valid permutes fits
  have none : ∀ rest, Shape.contains (pick x.shape kept) rest = true →
      Argmax.lane (lane rest) = .error .emptyArgmax := by
    intro rest inside
    have nothing : jointLane x kept reduced rest = [] := by
      rw [jointLane, Shape.coordinates_eq, empty]
      rfl
    rw [Argmax.lane, scanned rest inside, nothing]
    rfl
  have some : rest ∈ Shape.coordinates (pick x.shape kept) :=
    (Shape.mem_coordinates _ rest).mpr inside
  rw [run]
  cases coordinates : Shape.coordinates (pick x.shape kept) with
  | nil => simp [coordinates] at some
  | cons first others =>
    have firstInside : Shape.contains (pick x.shape kept) first = true := by
      rw [← Shape.mem_coordinates, coordinates]
      exact List.mem_cons_self
    rw [List.mapM_cons, none first firstInside]
    rfl

/-- Where no lane is empty, each gives the place of its first greatest element. -/
theorem runJoint_first (valid : x.Valid) (permutes : IsPermutation (kept ++ reduced) x.rank)
    (fits : JointFits x.shape kept reduced)
    (nonempty : ∀ rest, Shape.contains (pick x.shape kept) rest = true →
      Shape.count (pick x.shape reduced) ≠ 0) :
    ∃ (y : Tensor) (number : Coord → Nat),
      runJoint (kept ++ reduced) kept.length (lanes kept.length) x = .ok y ∧
      y.Represents .i64 (pick x.shape kept) (fun rest => .int (Int64.ofNat (number rest))) ∧
      ∀ rest, Shape.contains (pick x.shape kept) rest = true →
        Argmax.First (jointLane x kept reduced rest) (number rest) := by
  obtain ⟨lane, scanned, run⟩ := runJoint_eq valid permutes fits
  have found : ∀ rest, ∃ number, Shape.contains (pick x.shape kept) rest = true →
      Argmax.lane (lane rest) = .ok (.int (Int64.ofNat number)) ∧
        Argmax.First (jointLane x kept reduced rest) number := by
    intro rest
    by_cases inside : Shape.contains (pick x.shape kept) rest = true
    · have alike : ∀ s ∈ jointLane x kept reduced rest, s.family = x.elem.family := by
        intro s listed
        obtain ⟨coord, coordInside, -, rfl⟩ := (mem_jointLane permutes inside s).mp listed
        exact valid.family_element coord coordInside
      have some : jointLane x kept reduced rest ≠ [] := by
        rw [← List.length_pos_iff, jointLane, List.length_map, Shape.coordinates_length]
        exact Nat.pos_of_ne_zero (nonempty rest inside)
      obtain ⟨number, here, first⟩ := Argmax.place?_eq_some alike some
      refine ⟨number, fun _ => ⟨?_, first⟩⟩
      rw [Argmax.lane, scanned rest inside, here]
    · exact ⟨0, fun claimed => absurd claimed inside⟩
  choose number numbers using found
  have counted : Shape.CountFits (pick x.shape kept) := fits.2.2.of_append
  have collected := Tensor.withScalars_represents .i64 (pick x.shape kept)
    (fun rest => .int (Int64.ofNat (number rest))) counted.count_lt
  refine ⟨_, number, ?_, collected.congr _ ?_, ?_⟩
  · rw [run, Outcome.mapM_ok _ (fun rest => .int (Int64.ofNat (number rest)))]
    · rfl
    · intro rest listed
      exact (numbers rest ((Shape.mem_coordinates _ rest).mp listed)).1
  · intro rest _
    rfl
  · intro rest inside
    exact (numbers rest inside).2

/-- A call of a joint plan runs it on its only argument. -/
theorem call_joint (order : List Nat) (front : Nat) (along : AxisApply) (o : Options) :
    (Kernel.mk (joint order front along).definition none o).call [x] =
      (runJoint order front along x).map .tensor := by
  have called : (Kernel.mk (joint order front along).definition none o).call [x] =
      (runJoint order front along x >>= fun places => pure (.tensor places)) := rfl
  rw [called]
  cases runJoint order front along x <;> rfl

/-- There is a coordinate of the kept axes, and a reduced axis without elements. -/
def EmptyLane (x : Tensor) (kept reduced : List Nat) : Prop :=
  (∃ rest, Shape.contains (pick x.shape kept) rest = true) ∧
    ∃ axis ∈ reduced, x.shape.getD axis 0 = 0

/-- A lane is empty when one of its axes is. -/
theorem count_pick_eq_zero (shape : Shape) (axes : List Nat) :
    Shape.count (pick shape axes) = 0 ↔ ∃ axis ∈ axes, shape.getD axis 0 = 0 := by
  rw [Shape.count_eq_zero, pick, List.mem_map]

/-- An argmax over axes, each listed any number of times and in any order, or over all axes,
    fails where a lane is empty. Otherwise the element at a coordinate of the kept axes numbers
    the first coordinate that wins among those with these entries, in the row-major order of the
    reduced axes. Both take strides and counts that are words; without them the run ends, and an
    axis of the array is empty. -/
theorem argmax_first_greatest (node : Node) (axes : Option (List Nat)) (config : Config)
    (k : Kernel) (accepted : argmax node axes config = .ok k) (input : TensorType)
    (unary : node.inputs = [input]) (positive : 0 < input.rank) (x : Tensor) (valid : x.Valid)
    (sameRank : x.rank = input.rank) :
    (JointFits x.shape (keptAxes axes x.rank) (reducedAxes axes x.rank) →
      EmptyLane x (keptAxes axes x.rank) (reducedAxes axes x.rank) →
      k.call [x] = .error .emptyArgmax) ∧
    (¬ JointFits x.shape (keptAxes axes x.rank) (reducedAxes axes x.rank) →
      0 ∈ x.shape ∧ k.call [x] = .error (.inTensor .overflow)) ∧
    (JointFits x.shape (keptAxes axes x.rank) (reducedAxes axes x.rank) →
      ¬ EmptyLane x (keptAxes axes x.rank) (reducedAxes axes x.rank) →
      ∃ y, k.call [x] = .ok (.tensor y) ∧ y.Valid ∧ y.elem = .i64 ∧
        y.shape = pick x.shape (keptAxes axes x.rank) ∧
        ∀ rest, Shape.contains y.shape rest = true →
          ∃ coord, Wins x (keptAxes axes x.rank) coord ∧
            pick coord (keptAxes axes x.rank) = rest ∧
            y.get rest =
              .ok (.int (Int64.ofNat (place x.shape (reducedAxes axes x.rank) coord))) ∧
            ∀ other, Wins x (keptAxes axes x.rank) other →
              pick other (keptAxes axes x.rank) = rest →
              place x.shape (reducedAxes axes x.rank) coord ≤
                place x.shape (reducedAxes axes x.rank) other) := by
  obtain ⟨p, ⟨only, inputs, built⟩, rfl⟩ := argmax_eq_ok accepted
  obtain rfl : input = only := by simpa [unary] using inputs
  rw [← sameRank] at built positive
  obtain rfl := build_eq_joint built positive.ne'
  have permutes := isPermutation_axes axes x.rank
  rw [call_joint]
  refine ⟨?_, ?_, ?_⟩
  · rintro fits ⟨⟨rest, inside⟩, empty⟩
    rw [runJoint_empty valid permutes fits inside ((count_pick_eq_zero _ _).mpr empty)]
    rfl
  · intro tooLarge
    refine ⟨by_contra fun full => tooLarge (jointFits_of_full permutes full valid.2.2), ?_⟩
    rw [runJoint_overflow valid permutes _ tooLarge]
    rfl
  · intro fits filled
    obtain ⟨y, number, run, represents, first⟩ := runJoint_first valid permutes fits (by
      intro rest inside empty
      exact filled ⟨⟨rest, inside⟩, (count_pick_eq_zero _ _).mp empty⟩)
    refine ⟨y, by rw [run]; rfl, represents.valid, represents.elem_eq, represents.shape_eq, ?_⟩
    intro rest inside
    rw [represents.shape_eq] at inside
    obtain ⟨coord, wins, front, numbered, least⟩ :=
      exists_first permutes inside (number rest) (first rest inside)
    refine ⟨coord, wins, front, ?_, numbered.symm ▸ least⟩
    rw [represents.get_eq rest inside, numbered]

/-- Two layers of three pairs, with ties, a NaN in front of a number, and zeros of both signs. -/
def pairs : Tensor :=
  ⟨.f64, [2, 3, 2], .float #[1.0, 5.0, 2.0, 1.0, 0.0, -0.0, 5.0, 5.0, 0.0 / 0.0, 9.0, -0.0, 0.0]⟩

/-- Rows without elements. -/
def emptyRows : Tensor := ⟨.u64, [2, 0], .unsigned #[]⟩

/-- An argmax of an array with the given number of axes. -/
def unaryNode (axes : List Nat) (elem : ElemType) (rank : Nat) : Node :=
  ⟨.argmax (some axes), [⟨elem, List.replicate rank none, List.replicate rank false⟩],
    [⟨.i64, [none], [false]⟩]⟩

/-- Over the first and the last axis, a tie goes to the first of the greatest and a NaN wins; rows
    without elements have no greatest element. The second axis of the hollow array is not moved. -/
theorem argmax_first_greatest_pairs :
    (∃ k, argmax (unaryNode [2, 0, 2] .f64 3) (some [2, 0, 2]) {} = .ok k ∧
      k.call [pairs] = .ok (.tensor ⟨.i64, [3], .signed #[1, 2, 0]⟩) ∧
      ∃ coord, Wins pairs [1] coord ∧ pick coord [1] = [1] ∧
        Int64.ofNat (place [2, 3, 2] [0, 2] coord) = 2 ∧
        ∀ other, Wins pairs [1] other → pick other [1] = [1] →
          place [2, 3, 2] [0, 2] coord ≤ place [2, 3, 2] [0, 2] other) ∧
    (∃ k, argmax (unaryNode [1] .u64 2) (some [1]) {} = .ok k ∧
      k.call [emptyRows] = .error .emptyArgmax) ∧
    ∃ k, argmax (unaryNode [1] .i64 3) (some [1]) {} = .ok k ∧
      k.call [.hollow] = .error (.inTensor .overflow) := by
  refine ⟨?_, ?_, ?_⟩
  · obtain ⟨k, accepted⟩ : ∃ k, argmax (unaryNode [2, 0, 2] .f64 3) (some [2, 0, 2]) {} = .ok k :=
      ⟨_, rfl⟩
    obtain ⟨-, -, found⟩ := argmax_first_greatest _ _ _ k accepted _ rfl (by decide) pairs
      (by decide) rfl
    obtain ⟨y, called, -, -, -, places⟩ :=
      found (by decide) (by rintro ⟨-, empty⟩; revert empty; decide)
    have result : (argmax (unaryNode [2, 0, 2] .f64 3) (some [2, 0, 2]) {} >>=
        fun k => k.call [pairs]) = .ok (.tensor ⟨.i64, [3], .signed #[1, 2, 0]⟩) := by
      decide +kernel
    rw [accepted, Outcome.bind_ok, called] at result
    obtain rfl : y = ⟨.i64, [3], .signed #[1, 2, 0]⟩ := by simpa using result
    obtain ⟨coord, wins, front, held, least⟩ := places [1] (by decide)
    refine ⟨k, accepted, called, coord, wins, front, ?_, least⟩
    have stored : Tensor.get ⟨.i64, [3], .signed #[1, 2, 0]⟩ [1] = .ok (.int 2) := by decide
    rw [stored] at held
    exact (Scalar.int.inj (Except.ok.inj held)).symm
  · obtain ⟨k, accepted⟩ : ∃ k, argmax (unaryNode [1] .u64 2) (some [1]) {} = .ok k := ⟨_, rfl⟩
    obtain ⟨fails, -⟩ := argmax_first_greatest _ _ _ k accepted _ rfl (by decide) emptyRows
      (by decide) rfl
    exact ⟨k, accepted, fails (by decide) ⟨⟨[0], by decide⟩, by decide⟩⟩
  · obtain ⟨k, accepted⟩ : ∃ k, argmax (unaryNode [1] .i64 3) (some [1]) {} = .ok k := ⟨_, rfl⟩
    obtain ⟨-, ends, -⟩ := argmax_first_greatest _ _ _ k accepted _ rfl (by decide) .hollow
      (by decide) rfl
    exact ⟨k, accepted, (ends (by decide)).2⟩

end LoopKernels.Lowering.ArgmaxPlan
