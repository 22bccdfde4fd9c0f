import LoopKernels.Proofs.Lowering.ReductionListing
import LoopKernels.Proofs.Lowering.ShuffleListing
import LoopKernels.Proofs.Tensor.Reshaping

/-!
# Where a shuffle puts the elements

A shuffle puts the element at a coordinate to the place that its order declares: the entry on
a kept axis stands where the axis is listed, fresh axes have the entry zero, and dropped axes
had it. The kernel transposes the kept axes to the front, the dropped ones behind them, and
then reshapes. Axes of length one contribute nothing to the number of a coordinate, wherever
they stand, so the reshaping neither moves an element nor loses one.

Transposing reads through the strides of the array, unless the axes stand in their order, and
reshaping counts the output shape. Where one of these is no word the run ends.
-/

namespace LoopKernels

open Tensor (pick pick_cons unpick IsPermutation)

/-- The length of an output axis: that of the axis it keeps, or one. -/
def ShuffleEntry.length (shape : Shape) : ShuffleEntry → Nat
  | axis number => shape.getD number 0
  | fresh => 1

/-- A kept axis has the length that it had. -/
@[simp] theorem ShuffleEntry.length_axis (shape : Shape) (number : Nat) :
    (axis number).length shape = shape.getD number 0 := rfl

/-- A fresh axis has length one. -/
@[simp] theorem ShuffleEntry.length_fresh (shape : Shape) : fresh.length shape = 1 := rfl

namespace Shuffle

variable {s : Shuffle}

/-- The shape of the output. -/
def shuffledShape (s : Shuffle) (shape : Shape) : Shape := s.order.map (·.length shape)

/-- The coordinate of the input from which a coordinate of the output comes: a kept axis has the
    entry at the place where it is listed, and a dropped one has zero. -/
def source (s : Shuffle) (coord : Coord) : Coord :=
  (List.range s.inputRank).map fun axis =>
    if .axis axis ∈ s.order then coord.getD (s.order.idxOf (.axis axis)) 0 else 0

/-- The axes stand in their order or the strides of the shape are words, and so are the products
    that count the output shape. -/
def MoveFits (s : Shuffle) (shape target : Shape) : Prop :=
  Tensor.TransposeFits shape s.transposition ∧ target.CountFits

instance (s : Shuffle) (shape target : Shape) : Decidable (s.MoveFits shape target) :=
  inferInstanceAs (Decidable (_ ∧ _))

/-! ## Unit axes -/

/-- A fresh axis keeps none. -/
@[simp] theorem kept_fresh (order : List ShuffleEntry) :
    (ShuffleEntry.fresh :: order).filterMap keptAxis = order.filterMap keptAxis := rfl

/-- An axis of the input is kept. -/
@[simp] theorem kept_axis (number : Nat) (order : List ShuffleEntry) :
    (ShuffleEntry.axis number :: order).filterMap keptAxis =
      number :: order.filterMap keptAxis := rfl

/-- The entries of an output coordinate on the kept axes, in the order in which they are listed. -/
def keptEntries (order : List ShuffleEntry) (coord : Coord) : Coord :=
  (order.filterMap keptAxis).map fun axis => coord.getD (order.idxOf (.axis axis)) 0

/-- The index on a fresh axis is left out. -/
theorem keptEntries_fresh (order : List ShuffleEntry) (index : Nat) (coord : Coord) :
    keptEntries (.fresh :: order) (index :: coord) = keptEntries order coord := by
  refine List.map_congr_left ?_
  intro axis _
  rw [List.idxOf_cons_ne order (by simp), List.getD_cons_succ]

/-- The index on an axis that is kept once comes first. -/
theorem keptEntries_axis (order : List ShuffleEntry) (number index : Nat) (coord : Coord)
    (once : number ∉ order.filterMap keptAxis) :
    keptEntries (.axis number :: order) (index :: coord) = index :: keptEntries order coord := by
  rw [keptEntries, kept_axis, List.map_cons, List.idxOf_cons_self, List.getD_cons_zero]
  refine congrArg (index :: ·) (List.map_congr_left ?_)
  intro axis listed
  have apart : number ≠ axis := fun same => once (same ▸ listed)
  rw [List.idxOf_cons_ne order (by simpa using apart), List.getD_cons_succ]

/-- Fresh axes add no elements. -/
theorem count_entries (order : List ShuffleEntry) (shape : Shape) :
    Shape.count (order.map (·.length shape)) =
      Shape.count (pick shape (order.filterMap keptAxis)) := by
  induction order with
  | nil => rfl
  | cons entry order inductionHypothesis =>
    cases entry with
    | fresh =>
      rw [List.map_cons, Shape.count_cons, inductionHypothesis, kept_fresh,
        ShuffleEntry.length_fresh, Nat.one_mul]
    | axis number =>
      rw [List.map_cons, Shape.count_cons, inductionHypothesis, kept_axis, pick_cons,
        Shape.count_cons, ShuffleEntry.length_axis]

/-- Fresh axes do not change the number of a coordinate. -/
theorem offset_keptEntries (order : List ShuffleEntry) (shape : Shape) (coord : Coord)
    (distinct : (order.filterMap keptAxis).Nodup)
    (inside : Shape.contains (order.map (·.length shape)) coord = true) :
    Shape.contains (pick shape (order.filterMap keptAxis)) (keptEntries order coord) = true ∧
      Shape.offset (keptEntries order coord)
        (Shape.strides (pick shape (order.filterMap keptAxis))) =
        Shape.offset coord (Shape.strides (order.map (·.length shape))) := by
  induction order generalizing coord with
  | nil =>
    obtain rfl := (Shape.contains_nil coord).mp inside
    exact ⟨rfl, rfl⟩
  | cons entry order inductionHypothesis =>
    obtain ⟨index, rest, rfl, below, restInside⟩ :=
      (Shape.contains_cons_iff _ _ coord).mp inside
    cases entry with
    | fresh =>
      obtain rfl : index = 0 := by simpa using below
      rw [kept_fresh, keptEntries_fresh, List.map_cons, Shape.strides_cons, Shape.offset_cons,
        Nat.zero_mul, Nat.zero_add]
      exact inductionHypothesis rest distinct restInside
    | axis number =>
      have once : number ∉ order.filterMap keptAxis ∧ (order.filterMap keptAxis).Nodup :=
        List.nodup_cons.mp distinct
      obtain ⟨within, numbered⟩ := inductionHypothesis rest once.2 restInside
      rw [kept_axis, pick_cons, keptEntries_axis order number index rest once.1, List.map_cons]
      constructor
      · exact (Shape.contains_cons _ _ _ _).mpr ⟨below, within⟩
      · rw [Shape.strides_cons, Shape.strides_cons, Shape.offset_cons, Shape.offset_cons, numbered,
          count_entries order shape]

/-! ## The way back -/

/-- A source has one index for each axis of the input. -/
theorem length_source (coord : Coord) : (s.source coord).length = s.inputRank := by
  simp [source]

/-- The kept axes are those that the order names. -/
theorem mem_kept (axis : Nat) : axis ∈ s.kept ↔ .axis axis ∈ s.order := by
  rw [kept, List.mem_filterMap]
  constructor
  · rintro ⟨entry, listed, same⟩
    cases entry with
    | fresh => simp [keptAxis] at same
    | axis number => exact Option.some.inj same ▸ listed
  · intro listed
    exact ⟨_, listed, rfl⟩

/-- The index of a source on an axis is the one at its place in the order, and zero on a dropped
    axis. -/
theorem getD_source (coord : Coord) (axis : Nat) (bound : axis < s.inputRank) :
    (s.source coord).getD axis 0 =
      if .axis axis ∈ s.order then coord.getD (s.order.idxOf (.axis axis)) 0 else 0 := by
  simp [source, bound]

/-- On the transposed axes, the coordinate that an output coordinate comes from has its kept
    entries in front, and zeros behind them. -/
theorem pick_source (permutes : IsPermutation s.transposition s.inputRank) (coord : Coord) :
    pick (s.source coord) s.transposition =
      keptEntries s.order coord ++ List.replicate s.dropped.length 0 := by
  have bounded : ∀ axis ∈ s.transposition, axis < s.inputRank := permutes.2.1
  rw [transposition, Tensor.pick_append]
  congr 1
  · refine List.map_congr_left ?_
    intro axis listed
    rw [getD_source coord axis (bounded axis (List.mem_append_left _ listed)),
      if_pos ((mem_kept axis).mp listed)]
  · rw [← List.map_const']
    refine List.map_congr_left ?_
    intro axis listed
    have dropped : .axis axis ∉ s.order := by
      rw [← mem_kept]
      simpa using (List.mem_filter.mp listed).2
    rw [getD_source coord axis (bounded axis (List.mem_append_right _ listed)), if_neg dropped]

/-- The lengths of dropped axes. -/
theorem pick_dropped (shape : Shape) (unit : ∀ axis ∈ s.dropped, shape.getD axis 0 = 1) :
    pick shape s.dropped = List.replicate s.dropped.length 1 := by
  rw [← List.map_const']
  exact List.map_congr_left unit

/-- Where dropped axes have length one, a coordinate of the output and the coordinate that it
    comes from have the same number once the axes are transposed. -/
theorem offset_source (permutes : IsPermutation s.transposition s.inputRank) (shape : Shape)
    (unit : ∀ axis ∈ s.dropped, shape.getD axis 0 = 1) (coord : Coord)
    (inside : Shape.contains (s.shuffledShape shape) coord = true) :
    Shape.contains (pick shape s.transposition) (pick (s.source coord) s.transposition) = true ∧
      Shape.offset (pick (s.source coord) s.transposition)
        (Shape.strides (pick shape s.transposition)) =
        Shape.offset coord (Shape.strides (s.shuffledShape shape)) := by
  have distinct : s.kept.Nodup := (List.nodup_append.mp permutes.2.2).1
  obtain ⟨within, numbered⟩ := offset_keptEntries s.order shape coord distinct inside
  have zeros : Shape.contains (List.replicate s.dropped.length 1)
      (List.replicate s.dropped.length 0) = true := by
    rw [Shape.contains_iff_get]
    simp +contextual
  have first : Shape.offset (List.replicate s.dropped.length 0)
      (Shape.strides (List.replicate s.dropped.length 1)) = 0 := by
    have below := Shape.offset_lt_count _ _ zeros
    rwa [Shape.count_ones, Nat.lt_one_iff] at below
  have length := Shape.length_of_contains _ _ within
  rw [pick_source permutes coord, transposition, Tensor.pick_append,
    pick_dropped shape unit]
  constructor
  · exact (Shape.contains_append _ _ _ _ length).mpr ⟨within, zeros⟩
  · rw [Shape.offset_append (pick shape s.kept) _ _ _ length, first, Shape.count_ones, Nat.mul_one,
      Nat.add_zero]
    exact numbered

/-- An output coordinate comes from a coordinate of the input. -/
theorem contains_source (permutes : IsPermutation s.transposition s.inputRank) (shape : Shape)
    (sameRank : shape.length = s.inputRank) (unit : ∀ axis ∈ s.dropped, shape.getD axis 0 = 1)
    (coord : Coord) (inside : Shape.contains (s.shuffledShape shape) coord = true) :
    Shape.contains shape (s.source coord) = true := by
  have moved := (offset_source permutes shape unit coord inside).1
  rw [← permutes.unpick_pick (s.source coord) (length_source coord)]
  exact permutes.contains_unpick shape sameRank _ moved

/-- As many elements as before, where dropped axes have length one. -/
theorem count_shuffledShape (shape : Shape) (unit : ∀ axis ∈ s.dropped, shape.getD axis 0 = 1) :
    Shape.count (s.shuffledShape shape) = Shape.count (pick shape s.transposition) := by
  rw [transposition, Tensor.pick_append, Shape.count_append, pick_dropped shape unit,
    Shape.count_ones, Nat.mul_one]
  exact count_entries s.order shape

/-- An array without an empty axis is shuffled. -/
theorem moveFits_of_full (permutes : IsPermutation s.transposition s.inputRank) {shape : Shape}
    (sameRank : shape.length = s.inputRank) (unit : ∀ axis ∈ s.dropped, shape.getD axis 0 = 1)
    (full : 0 ∉ shape) (counted : shape.count < Word.limit) :
    s.MoveFits shape (s.shuffledShape shape) := by
  have count : Shape.count (s.shuffledShape shape) = shape.count := by
    rw [count_shuffledShape shape unit, permutes.count_pick shape sameRank]
  refine ⟨.inr (Shape.stridesFit_of_full full counted),
    Shape.countFits_of_full ?_ (count ▸ counted)⟩
  rw [← Shape.count_eq_zero, count, Shape.count_eq_zero]
  exact full

end Shuffle

namespace Lowering

namespace ShufflePlan

/-! ## Runs -/

variable {p : ShufflePlan} {x : Tensor}

/-- The transposed lengths, placed where their axes are listed. -/
theorem place_kept (order : List ShuffleEntry) (shape : Shape) :
    place order (pick shape (order.filterMap Shuffle.keptAxis)) = order.map (·.length shape) := by
  induction order with
  | nil => rfl
  | cons entry order inductionHypothesis =>
    cases entry with
    | fresh => rw [Shuffle.kept_fresh, place, inductionHypothesis, List.map_cons]; rfl
    | axis number =>
      rw [Shuffle.kept_axis, pick_cons, place, inductionHypothesis, List.map_cons]
      rfl

/-- The shape for a transposed array is the known one, or else that of the shuffle. -/
theorem outputShape_transposed (p : ShufflePlan) (shape : Shape) :
    p.outputShape (pick shape p.shuffle.transposition) =
      p.staticShape.getD (p.shuffle.shuffledShape shape) := by
  unfold outputShape
  cases p.staticShape with
  | some known => rfl
  | none =>
    have front : (pick shape p.shuffle.transposition).take p.shuffle.kept.length =
        pick shape p.shuffle.kept := by
      rw [Shuffle.transposition, Tensor.pick_append]
      exact List.take_left' (List.length_map _)
    rw [front]
    exact place_kept p.shuffle.order shape

/-- The array is transposed, or it is left alone because transposing it changes nothing. -/
theorem WellFormed.transposed (formed : p.WellFormed) (valid : x.Valid)
    (sameRank : x.rank = p.shuffle.inputRank)
    (fits : Tensor.TransposeFits x.shape p.shuffle.transposition) :
    ∃ u, (if p.isIdentity then .ok x
        else KernelError.ofTensor (x.transpose p.shuffle.transposition)) = .ok u ∧
      u.Represents x.elem (pick x.shape p.shuffle.transposition) fun coord =>
        x.element (unpick p.shuffle.transposition coord) := by
  have permutes := formed.permutes
  rw [← sameRank] at permutes
  by_cases identity : p.isIdentity = true
  · refine ⟨x, if_pos identity, ?_⟩
    have listed : p.shuffle.transposition = List.range x.rank := by
      rw [← permutes.1]
      exact beq_iff_eq.mp identity
    have same : pick x.shape p.shuffle.transposition = x.shape := by
      rw [listed]
      exact Tensor.map_getD_range x.shape
    rw [same]
    refine valid.represents.congr _ ?_
    intro coord inside
    have length : coord.length = x.rank := Shape.length_of_contains x.shape coord inside
    have entries : pick coord p.shuffle.transposition = coord := by
      rw [listed, ← length]
      exact Tensor.map_getD_range coord
    have back := permutes.unpick_pick coord length
    rw [entries] at back
    rw [back]
  · obtain ⟨u, moved, represents⟩ := valid.represents.transpose permutes fits
    refine ⟨u, ?_, represents⟩
    rw [if_neg identity, moved]
    rfl

/-- A shuffle ends where the array cannot be transposed or its output shape cannot be counted. -/
theorem WellFormed.run_overflow (formed : p.WellFormed) (valid : x.Valid)
    (sameRank : x.rank = p.shuffle.inputRank)
    (tooLarge : ¬ p.shuffle.MoveFits x.shape
      (p.staticShape.getD (p.shuffle.shuffledShape x.shape))) :
    p.run x = .error (.inTensor .overflow) := by
  rw [formed.run_eq, if_neg (not_not.mpr sameRank)]
  by_cases fits : Tensor.TransposeFits x.shape p.shuffle.transposition
  · obtain ⟨u, moved, represents⟩ := formed.transposed valid sameRank fits
    rw [moved, Outcome.bind_ok, represents.shape_eq, p.outputShape_transposed, Tensor.reshape,
      Shape.elementCount_eq, if_neg fun counted => tooLarge ⟨fits, counted⟩]
    rfl
  · have permutes := formed.permutes
    rw [← sameRank] at permutes
    have moving : ¬ p.isIdentity = true := fun identity =>
      fits (.inl ((Tensor.inOrder_iff.mp identity).trans (congrArg List.range permutes.1)))
    rw [if_neg moving, Tensor.transpose_overflow permutes fits]
    rfl

/-- A shuffle gives the array its declared shape and leaves the elements where they come from. -/
theorem WellFormed.run_represents (formed : p.WellFormed) (valid : x.Valid)
    (sameRank : x.rank = p.shuffle.inputRank)
    (unit : ∀ axis ∈ p.shuffle.dropped, x.shape.getD axis 0 = 1)
    (static : ∀ shape ∈ p.staticShape, shape = p.shuffle.shuffledShape x.shape)
    (fits : p.shuffle.MoveFits x.shape (p.shuffle.shuffledShape x.shape)) :
    ∃ y, p.run x = .ok y ∧
      y.Represents x.elem (p.shuffle.shuffledShape x.shape) fun coord =>
        x.element (p.shuffle.source coord) := by
  have permutes := formed.permutes
  obtain ⟨u, moved, represents⟩ := formed.transposed valid sameRank fits.1
  have shape : p.outputShape u.shape = p.shuffle.shuffledShape x.shape := by
    rw [represents.shape_eq, outputShape_transposed]
    cases known : p.staticShape with
    | some shape => exact static shape known
    | none => rfl
  obtain ⟨y, reshaped, elements⟩ := represents.reshape (p.shuffle.shuffledShape x.shape)
    fits.2 (Shuffle.count_shuffledShape x.shape unit)
    (fun coord => pick (p.shuffle.source coord) p.shuffle.transposition)
    (Shuffle.offset_source permutes x.shape unit)
  refine ⟨y, ?_, elements.congr _ ?_⟩
  · rw [formed.run_eq, if_neg (not_not.mpr sameRank), moved, Outcome.bind_ok, shape, reshaped]
    rfl
  · intro coord _
    rw [permutes.unpick_pick _ (Shuffle.length_source coord)]

end ShufflePlan

/-- A shuffle moves every element to the place that its order declares, if the strides and the count
    that it forms are words. Otherwise it ends, which takes an empty axis. -/
theorem shuffle_moves_elements (node : Node) (s : Shuffle) (config : Config) (k : Kernel)
    (accepted : shuffle node s config = .ok k) (output : TensorType)
    (single : node.outputs = [output]) (x : Tensor) (valid : x.Valid)
    (sameRank : x.rank = s.inputRank) (unit : ∀ axis ∈ s.dropped, x.shape.getD axis 0 = 1)
    (static : ∀ shape, output.staticShape? = some shape → shape = s.shuffledShape x.shape) :
    (s.MoveFits x.shape (s.shuffledShape x.shape) →
      ∃ y, k.call [x] = .ok (.tensor y) ∧ y.Valid ∧ y.elem = x.elem ∧
        y.shape = s.shuffledShape x.shape ∧
        ∀ coord, Shape.contains y.shape coord = true →
          ∃ value, x.get (s.source coord) = .ok value ∧ y.get coord = .ok value) ∧
    (¬ s.MoveFits x.shape (s.shuffledShape x.shape) →
      0 ∈ x.shape ∧ k.call [x] = .error (.inTensor .overflow)) := by
  obtain ⟨declared, only, formed, rfl⟩ := shuffle_compiled accepted
  obtain rfl : output = declared := by simpa [single] using Node.outputs_of_onlyOutput only
  rw [ShufflePlan.call_single]
  refine ⟨fun fits => ?_, fun tooLarge => ⟨by_contra fun full => tooLarge ?_, ?_⟩⟩
  · obtain ⟨y, run, represents⟩ := formed.run_represents valid sameRank unit static fits
    rw [run]
    refine ⟨y, rfl, represents.valid, represents.elem_eq, represents.shape_eq, ?_⟩
    intro coord inside
    rw [represents.shape_eq] at inside
    refine ⟨_, ?_, represents.get_eq coord inside⟩
    exact valid.represents.get_eq _
      (Shuffle.contains_source formed.permutes x.shape sameRank unit coord inside)
  · exact Shuffle.moveFits_of_full formed.permutes sameRank unit full valid.2.2
  · have target : output.staticShape?.getD (s.shuffledShape x.shape) = s.shuffledShape x.shape := by
      cases known : output.staticShape? with
      | some shape => exact static shape known
      | none => rfl
    rw [formed.run_overflow valid sameRank (by rwa [target])]
    rfl

/-- The last axis in front of the first one, with fresh axes in between; the middle one is
    dropped. -/
def lastFirst : Shuffle := ⟨3, [.fresh, .axis 2, .fresh, .axis 0], false⟩

/-- Its node, with what is known of the lengths of the output. -/
def lastFirstNode (lengths : List (Option Nat)) : Node :=
  ⟨.shuffle lastFirst, [⟨.u8, [none, none, none], [false, false, false]⟩],
    [⟨.u8, lengths, [false, false, false, false]⟩]⟩

/-- Two rows of three elements, with an axis of length one between them. -/
def tallRows : Tensor := ⟨.u8, [2, 1, 3], .unsigned #[1, 2, 3, 4, 5, 6]⟩

/-- The first two of three axes exchanged. -/
def firstSwapped : Shuffle := ⟨3, [.axis 1, .axis 0, .axis 2], false⟩

/-- With all lengths of the output known, and with some of them: the last element of the second
    row stands at the end. The first axes of the hollow array are not exchanged. -/
theorem shuffle_moves_elements_rows :
    (∃ k y, shuffle (lastFirstNode [some 1, some 3, some 1, some 2]) lastFirst {} = .ok k ∧
      k.call [tallRows] = .ok (.tensor y) ∧ y.shape = [1, 3, 1, 2] ∧
      tallRows.get [1, 0, 2] = .ok (.uint 6) ∧ y.get [0, 2, 0, 1] = .ok (.uint 6)) ∧
    (∃ k y, shuffle (lastFirstNode [none, some 3, some 1, none]) lastFirst {} = .ok k ∧
      k.call [tallRows] = .ok (.tensor y) ∧ y.shape = [1, 3, 1, 2] ∧
      tallRows.get [1, 0, 2] = .ok (.uint 6) ∧ y.get [0, 2, 0, 1] = .ok (.uint 6)) ∧
    ∃ k, shuffle ⟨.shuffle firstSwapped, [.dynamic .i64 3], [.dynamic .i64 3]⟩ firstSwapped {} =
        .ok k ∧
      k.call [.hollow] = .error (.inTensor .overflow) := by
  have six : tallRows.get (lastFirst.source [0, 2, 0, 1]) = .ok (.uint 6) := by decide
  have unit : ∀ axis ∈ lastFirst.dropped, tallRows.shape.getD axis 0 = 1 := by decide
  refine ⟨?_, ?_, ?_⟩
  · obtain ⟨k, accepted⟩ :
        ∃ k, shuffle (lastFirstNode [some 1, some 3, some 1, some 2]) lastFirst {} = .ok k :=
      ⟨_, rfl⟩
    obtain ⟨y, called, -, -, shape, moved⟩ := (shuffle_moves_elements _ _ _ k accepted _ rfl
      tallRows (by decide) rfl unit (fun shape known => (Option.some.inj known).symm)).1 (by decide)
    obtain ⟨value, there, here⟩ := moved [0, 2, 0, 1] (by rw [shape]; decide)
    rw [six] at there
    exact ⟨k, y, accepted, called, shape, six, there ▸ here⟩
  · obtain ⟨k, accepted⟩ :
        ∃ k, shuffle (lastFirstNode [none, some 3, some 1, none]) lastFirst {} = .ok k :=
      ⟨_, rfl⟩
    obtain ⟨y, called, -, -, shape, moved⟩ := (shuffle_moves_elements _ _ _ k accepted _ rfl
      tallRows (by decide) rfl unit (fun shape known => nomatch known)).1 (by decide)
    obtain ⟨value, there, here⟩ := moved [0, 2, 0, 1] (by rw [shape]; decide)
    rw [six] at there
    exact ⟨k, y, accepted, called, shape, six, there ▸ here⟩
  · obtain ⟨k, accepted⟩ : ∃ k, shuffle ⟨.shuffle firstSwapped, [.dynamic .i64 3],
        [.dynamic .i64 3]⟩ firstSwapped {} = .ok k := ⟨_, rfl⟩
    have ends := (shuffle_moves_elements _ _ _ k accepted _ rfl .hollow (by decide) rfl (by decide)
      (fun shape known => nomatch known)).2
    exact ⟨k, accepted, (ends (by decide)).2⟩

end Lowering

end LoopKernels
