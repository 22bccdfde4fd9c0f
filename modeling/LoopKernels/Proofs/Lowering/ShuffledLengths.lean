import LoopKernels.Proofs.Lowering.ShuffledElements

/-!
# What a shuffle checks of the lengths

The axes that a shuffle drops must have length one when it runs. The kernel does not look at
their lengths: it reshapes the transposed array, which compares two numbers of elements. So
lengths slip through where the numbers coincide. When the output shape is not known in advance,
this happens exactly if a kept axis is empty, since then no dropped length changes the number.
A shape known in advance takes every array with its number of elements, and keeps the lengths
of only one of their shapes, unless its number of elements is no word: then no array is taken.
-/

namespace LoopKernels

open Tensor (pick IsPermutation)

/-- A shape has one element when all its lengths are one. -/
theorem Shape.count_eq_one (shape : Shape) :
    Shape.count shape = 1 ↔ ∀ length ∈ shape, length = 1 := by
  induction shape with
  | nil => simp
  | cons length shape inductionHypothesis =>
    rw [Shape.count_cons, List.forall_mem_cons, ← inductionHypothesis]
    constructor
    · intro one
      exact ⟨Nat.eq_one_of_mul_eq_one_right one, Nat.eq_one_of_mul_eq_one_left one⟩
    · rintro ⟨rfl, one⟩
      rw [one]

/-- Axes of at most one index have at most one coordinate. -/
theorem Shape.count_le_one {shape : Shape} (short : ∀ length ∈ shape, length ≤ 1) :
    Shape.count shape ≤ 1 := by
  induction shape with
  | nil => simp
  | cons length shape inductionHypothesis =>
    obtain ⟨first, rest⟩ := List.forall_mem_cons.mp short
    rw [Shape.count_cons]
    exact Nat.mul_le_mul first (inductionHypothesis rest)

/-- One long axis among such axes bounds the number of coordinates. -/
theorem Shape.count_set_le {shape : Shape} (short : ∀ length ∈ shape, length ≤ 1)
    (axis length : Nat) : Shape.count (shape.set axis length) ≤ max 1 length := by
  induction shape generalizing axis with
  | nil => simp
  | cons first shape inductionHypothesis =>
    obtain ⟨single, rest⟩ := List.forall_mem_cons.mp short
    cases axis with
    | zero =>
      rw [List.set_cons_zero, Shape.count_cons]
      calc length * Shape.count shape
          ≤ length * 1 := Nat.mul_le_mul_left length (count_le_one rest)
        _ ≤ max 1 length := by omega
    | succ axis =>
      rw [List.set_cons_succ, Shape.count_cons]
      calc first * Shape.count (shape.set axis length)
          ≤ 1 * max 1 length := Nat.mul_le_mul single (inductionHypothesis rest axis)
        _ = max 1 length := Nat.one_mul _

/-- Lengths of at most one are counted in words. -/
theorem Shape.countFits_of_short {shape : Shape} (short : ∀ length ∈ shape, length ≤ 1) :
    shape.CountFits := by
  intro k _
  have leading : ∀ length ∈ shape.take k, length ≤ 1 :=
    fun length listed => short length (List.mem_of_mem_take listed)
  exact Nat.lt_of_le_of_lt (count_le_one leading) (by decide)

/-- Strides fit words when all lengths but one are at most one. -/
theorem Shape.stridesFit_set {shape : Shape} (short : ∀ length ∈ shape, length ≤ 1)
    (axis length : Nat) (word : length < Word.limit) : StridesFit (shape.set axis length) := by
  intro k _
  have behind : ∀ length ∈ shape.drop (k + 1), length ≤ 1 :=
    fun length listed => short length (List.mem_of_mem_drop listed)
  rw [List.drop_set]
  split
  · exact Nat.lt_of_le_of_lt (count_le_one behind) (by decide)
  · exact Nat.lt_of_le_of_lt (count_set_le behind _ length) (Nat.max_lt.mpr ⟨by decide, word⟩)

namespace Shuffle

variable {s : Shuffle} {shape target : Shape}

/-- An array of one shape may become one of another: dropped axes have length one, fresh axes too,
    and kept axes stay as long as they are. -/
structure KeepsLengths (s : Shuffle) (shape target : Shape) : Prop where
  dropped : ∀ axis ∈ s.dropped, shape.getD axis 0 = 1
  kept : target = s.shuffledShape shape

/-- The number of elements does not show that the lengths are not kept. -/
def Slips (s : Shuffle) (shape : Shape) : Option Shape → Prop
  | none =>
    (∃ axis ∈ s.kept, shape.getD axis 0 = 0) ∧ ∃ axis ∈ s.dropped, shape.getD axis 0 ≠ 1
  | some known => Shape.count known = Shape.count shape ∧ ¬ s.KeepsLengths shape known

/-- The number of elements shows for every shape whether the lengths are kept, or is no word. -/
def Guards (s : Shuffle) : Option Shape → Prop
  | none => s.kept = [] ∨ s.dropped = []
  | some known =>
    ¬ known.CountFits ∨ Shape.count known = 1 ∨ s.inputRank = 0 ∨
      s.inputRank = 1 ∧ s.KeepsLengths [Shape.count known] known

/-! ## One shape -/

/-- A shuffled array is empty when a kept axis is. -/
theorem count_shuffledShape_eq_zero (s : Shuffle) (shape : Shape) :
    Shape.count (s.shuffledShape shape) = 0 ↔ ∃ axis ∈ s.kept, shape.getD axis 0 = 0 := by
  rw [shuffledShape, count_entries, Shape.count_eq_zero]
  exact List.mem_map

/-- The dropped axes hold one entry when each has length one. -/
theorem count_dropped_eq_one (s : Shuffle) (shape : Shape) :
    Shape.count (pick shape s.dropped) = 1 ↔ ∀ axis ∈ s.dropped, shape.getD axis 0 = 1 := by
  rw [Shape.count_eq_one]
  exact List.forall_mem_map

/-- The elements are those of the shuffled shape, once for each index on the dropped axes. -/
theorem count_shuffled_mul (permutes : IsPermutation s.transposition s.inputRank)
    (sameRank : shape.length = s.inputRank) :
    Shape.count (s.shuffledShape shape) * Shape.count (pick shape s.dropped) =
      Shape.count shape := by
  rw [← permutes.count_pick shape sameRank, transposition, Tensor.pick_append, Shape.count_append,
    shuffledShape, count_entries]
  rfl

/-- Lengths slip through when the numbers of elements agree and the lengths are not kept. -/
theorem slips_iff (permutes : IsPermutation s.transposition s.inputRank)
    (sameRank : shape.length = s.inputRank) (known : Option Shape) :
    s.Slips shape known ↔
      Shape.count (known.getD (s.shuffledShape shape)) = Shape.count shape ∧
        ¬ s.KeepsLengths shape (known.getD (s.shuffledShape shape)) := by
  cases known with
  | some known => rfl
  | none =>
    have agree : Shape.count (s.shuffledShape shape) = Shape.count shape ↔
        Shape.count (s.shuffledShape shape) = 0 ∨ Shape.count (pick shape s.dropped) = 1 := by
      rw [← count_shuffled_mul permutes sameRank]
      by_cases empty : Shape.count (s.shuffledShape shape) = 0
      · simp [empty]
      · rw [eq_comm, Nat.mul_eq_left empty, or_iff_right empty]
    have keeps : s.KeepsLengths shape (s.shuffledShape shape) ↔
        ∀ axis ∈ s.dropped, shape.getD axis 0 = 1 :=
      ⟨fun keeps => keeps.dropped, fun unit => ⟨unit, rfl⟩⟩
    show (_ ∧ _) ↔ _
    rw [Option.getD_none, agree, keeps, count_shuffledShape_eq_zero, count_dropped_eq_one]
    grind

/-! ## All shapes -/

/-- The lengths of an array are found in the output that keeps them. -/
theorem KeepsLengths.unique (permutes : IsPermutation s.transposition s.inputRank) {other : Shape}
    (first : s.KeepsLengths shape target) (second : s.KeepsLengths other target)
    (sameRank : shape.length = s.inputRank) (otherRank : other.length = s.inputRank) :
    shape = other := by
  have entries : ∀ entry ∈ s.order, entry.length shape = entry.length other :=
    List.map_inj_left.mp (first.kept.symm.trans second.kept)
  have lengths : ∀ axis < s.inputRank, shape.getD axis 0 = other.getD axis 0 := by
    intro axis bound
    have listed : axis ∈ s.transposition := permutes.perm.mem_iff.mpr (List.mem_range.mpr bound)
    rcases List.mem_append.mp listed with kept | dropped
    · exact entries _ ((mem_kept axis).mp kept)
    · rw [first.dropped axis dropped, second.dropped axis dropped]
  rw [← Tensor.map_getD_range shape, ← Tensor.map_getD_range other, sameRank, otherRank]
  refine List.map_congr_left ?_
  intro axis listed
  exact lengths axis (List.mem_range.mp listed)

/-- One element stays one element. -/
theorem keepsLengths_of_count (permutes : IsPermutation s.transposition s.inputRank)
    (sameRank : shape.length = s.inputRank) (targetRank : target.length = s.order.length)
    (one : Shape.count shape = 1) (targetOne : Shape.count target = 1) :
    s.KeepsLengths shape target := by
  have ones : ∀ axis < s.inputRank, shape.getD axis 0 = 1 := by
    intro axis bound
    have inside : axis < shape.length := sameRank ▸ bound
    simpa [inside] using (Shape.count_eq_one shape).mp one _ (List.getElem_mem inside)
  have entries : ∀ entry ∈ s.order, entry.length shape = 1 := by
    intro entry listed
    cases entry with
    | fresh => rfl
    | axis axis =>
      exact ones axis
        (permutes.2.1 axis (List.mem_append_left _ ((mem_kept axis).mpr listed)))
  refine ⟨fun axis listed => ones axis (permutes.2.1 axis (List.mem_append_right _ listed)), ?_⟩
  rw [List.eq_replicate_of_mem ((Shape.count_eq_one target).mp targetOne), shuffledShape,
    List.map_congr_left entries, List.map_const', targetRank]

/-- Lengths slip through in no array that the shuffle moves. -/
def NeverSlips (s : Shuffle) (known : Option Shape) : Prop :=
  ∀ shape : Shape, shape.length = s.inputRank → shape.count < Word.limit →
    s.MoveFits shape (known.getD (s.shuffledShape shape)) → ¬ s.Slips shape known

/-- Without a known shape, an empty kept axis hides a dropped axis. -/
theorem guards_none_iff (permutes : IsPermutation s.transposition s.inputRank) :
    s.Guards none ↔ s.NeverSlips none := by
  constructor
  · rintro (empty | empty) shape - - - ⟨⟨axis, kept, -⟩, ⟨other, dropped, -⟩⟩
    · simp [empty] at kept
    · simp [empty] at dropped
  · intro never
    by_contra unguarded
    obtain ⟨someKept, someDropped⟩ := not_or.mp unguarded
    obtain ⟨axis, kept⟩ := List.exists_mem_of_ne_nil _ someKept
    obtain ⟨other, dropped⟩ := List.exists_mem_of_ne_nil _ someDropped
    have apart : other ∉ s.kept := by simpa using (List.mem_filter.mp dropped).2
    -- One kept axis is empty and one dropped axis is long. All the others have length one, so that
    -- the strides are words for any number of axes.
    let short : Shape := (List.replicate s.inputRank 1).set axis 0
    have atMostOne : ∀ length ∈ short, length ≤ 1 := by
      intro length listed
      rcases List.mem_or_eq_of_mem_set listed with one | rfl
      · exact (List.eq_of_mem_replicate one).le
      · exact Nat.zero_le _
    have shortKept : ∀ number ∈ s.kept,
        (short.set other 2).getD number 0 = short.getD number 0 := by
      intro number listed
      have differ : other ≠ number := fun same => apart (same ▸ listed)
      simp [List.getElem?_set_ne differ]
    have bound : ∀ number ∈ s.transposition, number < s.inputRank := permutes.2.1
    refine never (short.set other 2) (by simp [short]) ?_ ⟨.inr ?_, ?_⟩
      ⟨⟨axis, kept, ?_⟩, ⟨other, dropped, ?_⟩⟩
    · exact Nat.lt_of_le_of_lt (Shape.count_set_le atMostOne other 2) (by decide)
    · exact Shape.stridesFit_set atMostOne other 2 (by decide)
    · refine Shape.countFits_of_short (List.forall_mem_map.mpr fun entry listed => ?_)
      cases entry with
      | fresh => exact Nat.le_refl 1
      | axis number =>
        show (short.set other 2).getD number 0 ≤ 1
        rw [shortKept number ((mem_kept number).mpr listed)]
        rcases Nat.lt_or_ge number short.length with inside | outside
        · simpa [inside] using atMostOne _ (List.getElem_mem inside)
        · simp [outside]
    · rw [shortKept axis kept]
      simp [short, bound axis (List.mem_append_left _ kept)]
    · simp [short, bound other (List.mem_append_right _ dropped)]

/-- The shapes of two or more axes with some number of elements are many, unless it is one. -/
theorem exists_ne_of_count {rank : Nat} (several : 2 ≤ rank) {count : Nat} (notOne : count ≠ 1)
    (word : count < Word.limit) :
    ∃ first second : Shape, (first.length = rank ∧ Shape.count first = count ∧ first.StridesFit) ∧
      (second.length = rank ∧ Shape.count second = count ∧ second.StridesFit) ∧
      first ≠ second := by
  obtain ⟨rest, rfl⟩ : ∃ rest, rank = rest + 2 := ⟨rank - 2, by omega⟩
  have ones : ∀ length ∈ List.replicate (rest + 2) 1, length ≤ 1 :=
    fun length listed => (List.eq_of_mem_replicate listed).le
  refine ⟨count :: 1 :: List.replicate rest 1, 1 :: count :: List.replicate rest 1,
    ⟨by simp, by simp [Shape.count_ones], Shape.stridesFit_set ones 0 count word⟩,
    ⟨by simp, by simp [Shape.count_ones], Shape.stridesFit_set ones 1 count word⟩, ?_⟩
  simp [notOne]

/-- With a known shape, the number of elements shows the lengths if it shows the shape. -/
theorem guards_some_iff (permutes : IsPermutation s.transposition s.inputRank)
    (targetRank : target.length = s.order.length) :
    s.Guards (some target) ↔ s.NeverSlips (some target) := by
  have keepsOne (shape : Shape) (sameRank : shape.length = s.inputRank)
      (one : Shape.count target = 1) : ¬ s.Slips shape (some target) := fun slips =>
    slips.2 (keepsLengths_of_count permutes sameRank targetRank (slips.1 ▸ one) one)
  constructor
  · rintro (tooLarge | one | none | ⟨single, keeps⟩) shape sameRank - fits
    · exact absurd fits.2 tooLarge
    · exact keepsOne shape sameRank one
    · obtain rfl : shape = [] := List.length_eq_zero_iff.mp (sameRank.trans none)
      exact fun slips => keepsOne [] sameRank slips.1 slips
    · obtain ⟨length, rfl⟩ := List.length_eq_one_iff.mp (sameRank.trans single)
      rintro ⟨same, lost⟩
      rw [same, Shape.count_cons, Shape.count_nil, Nat.mul_one] at keeps
      exact lost keeps
  · intro never
    by_cases counted : target.CountFits
    case neg => exact .inl counted
    refine .inr ?_
    have word : Shape.count target < Word.limit := counted.count_lt
    have keeps (shape : Shape) (sameRank : shape.length = s.inputRank)
        (same : Shape.count shape = Shape.count target) (fits : shape.StridesFit) :
        s.KeepsLengths shape target :=
      by_contra fun lost =>
        never shape sameRank (same ▸ word) ⟨.inr fits, counted⟩ ⟨same.symm, lost⟩
    by_cases one : Shape.count target = 1
    · exact .inl one
    · refine .inr ?_
      obtain none | single | several : s.inputRank = 0 ∨ s.inputRank = 1 ∨ 2 ≤ s.inputRank := by
        omega
      · exact .inl none
      · exact .inr ⟨single, keeps _ single.symm (by simp) (Shape.stridesFit_singleton _)⟩
      · obtain ⟨first, second, ⟨firstRank, firstCount, firstFits⟩,
          ⟨secondRank, secondCount, secondFits⟩, apart⟩ := exists_ne_of_count several one word
        have firstKeeps := keeps first firstRank firstCount firstFits
        have secondKeeps := keeps second secondRank secondCount secondFits
        exact absurd (firstKeeps.unique permutes secondKeeps firstRank secondRank) apart

end Shuffle

namespace Lowering

namespace ShufflePlan

variable {p : ShufflePlan} {x : Tensor}

/-- A plan runs on the arrays that it can move, with as many elements as the shape that it gives
    them. -/
theorem WellFormed.run_shape (formed : p.WellFormed) (valid : x.Valid)
    (sameRank : x.rank = p.shuffle.inputRank) :
    ((∃ y, p.run x = .ok y) ↔
      p.shuffle.MoveFits x.shape (p.staticShape.getD (p.shuffle.shuffledShape x.shape)) ∧
        Shape.count (p.staticShape.getD (p.shuffle.shuffledShape x.shape)) =
          Shape.count x.shape) ∧
    ∀ y, p.run x = .ok y → y.shape = p.staticShape.getD (p.shuffle.shuffledShape x.shape) := by
  by_cases fits :
      p.shuffle.MoveFits x.shape (p.staticShape.getD (p.shuffle.shuffledShape x.shape))
  case neg => simp [formed.run_overflow valid sameRank fits, fits]
  rw [and_iff_right fits]
  obtain ⟨u, moved, represents⟩ := formed.transposed valid sameRank fits.1
  have size : u.size = Shape.count x.shape := by
    rw [← formed.permutes.count_pick x.shape sameRank, ← represents.shape_eq]
    exact represents.valid.2.1
  rw [formed.run_eq, if_neg (not_not.mpr sameRank), moved, Outcome.bind_ok, represents.shape_eq,
    p.outputShape_transposed, ← size]
  simp only [Outcome.ofTensor_eq_ok, Tensor.reshape, Shape.elementCount_eq, if_pos fits.2,
    Outcome.bind_ok]
  split
  next differ => simp [differ]
  next same =>
    refine ⟨⟨fun _ => not_not.mp same, fun _ => ⟨_, rfl⟩⟩, ?_⟩
    intro y given
    rw [← Except.ok.inj given]

/-- A run keeps the lengths unless they slip through in an array that the plan can move. -/
theorem WellFormed.run_keeps_iff (formed : p.WellFormed) (valid : x.Valid)
    (sameRank : x.rank = p.shuffle.inputRank) :
    (∀ y, p.run x = .ok y → p.shuffle.KeepsLengths x.shape y.shape) ↔
      (p.shuffle.MoveFits x.shape (p.staticShape.getD (p.shuffle.shuffledShape x.shape)) →
        ¬ p.shuffle.Slips x.shape p.staticShape) := by
  obtain ⟨runs, shape⟩ := formed.run_shape valid sameRank
  rw [Shuffle.slips_iff formed.permutes sameRank, not_and, not_not, ← and_imp, ← runs]
  constructor
  · rintro keeps ⟨y, ran⟩
    exact shape y ran ▸ keeps y ran
  · intro keeps y ran
    exact shape y ran ▸ keeps ⟨y, ran⟩

/-- All runs keep the lengths if the number of elements guards them. -/
theorem WellFormed.forall_run_keeps_iff (formed : p.WellFormed) :
    (∀ x : Tensor, x.Valid → x.rank = p.shuffle.inputRank →
      ∀ y, p.run x = .ok y → p.shuffle.KeepsLengths x.shape y.shape) ↔
      p.shuffle.Guards p.staticShape := by
  have guards : p.shuffle.Guards p.staticShape ↔ p.shuffle.NeverSlips p.staticShape := by
    cases known : p.staticShape with
    | none => exact Shuffle.guards_none_iff formed.permutes
    | some target => exact Shuffle.guards_some_iff formed.permutes (formed.staticRank target known)
  rw [guards]
  constructor
  · intro keeps shape sameRank counted
    have represents := Tensor.withScalars_represents .u8 shape (fun _ => .int 0) counted
    exact (formed.run_keeps_iff represents.valid sameRank).mp (keeps _ represents.valid sameRank)
  · intro never x valid sameRank
    exact (formed.run_keeps_iff valid sameRank).mpr (never x.shape sameRank valid.2.2)

/-- A call gives what the plan gives. -/
theorem call_eq_ok_iff (p : ShufflePlan) (o : Options) (t : Tensor) (value : Value) :
    (Kernel.mk p.definition none o).call [t] = .ok value ↔
      ∃ y, p.run t = .ok y ∧ .tensor y = value := by
  rw [call_single]
  cases p.run t <;> simp [Except.map]

end ShufflePlan

/-- A shuffle runs exactly on the arrays that it can move with the number of elements of its
    output, and so keeps the lengths exactly of those that do not slip through. That none can slip
    through, it ensures only if it drops no axis or keeps none, or if the number of elements gives
    away the shape or is no word. -/
theorem shuffle_keeps_lengths_iff (node : Node) (s : Shuffle) (config : Config) (k : Kernel)
    (accepted : shuffle node s config = .ok k) (output : TensorType)
    (single : node.outputs = [output]) :
    (∀ x : Tensor, x.Valid → x.rank = s.inputRank →
      ((∃ value, k.call [x] = .ok value) ↔
        s.MoveFits x.shape (output.staticShape?.getD (s.shuffledShape x.shape)) ∧
          Shape.count (output.staticShape?.getD (s.shuffledShape x.shape)) =
            Shape.count x.shape) ∧
      (∀ value, k.call [x] = .ok value →
        value.shape = output.staticShape?.getD (s.shuffledShape x.shape)) ∧
      ((∀ value, k.call [x] = .ok value → s.KeepsLengths x.shape value.shape) ↔
        (s.MoveFits x.shape (output.staticShape?.getD (s.shuffledShape x.shape)) →
          ¬ s.Slips x.shape output.staticShape?))) ∧
    ((∀ x : Tensor, x.Valid → x.rank = s.inputRank →
      ∀ value, k.call [x] = .ok value → s.KeepsLengths x.shape value.shape) ↔
        s.Guards output.staticShape?) := by
  obtain ⟨declared, only, formed, rfl⟩ := shuffle_compiled accepted
  obtain rfl : output = declared := by simpa [single] using Node.outputs_of_onlyOutput only
  simp only [ShufflePlan.call_eq_ok_iff, forall_exists_index, and_imp, forall_apply_eq_imp_iff₂]
  refine ⟨?_, formed.forall_run_keeps_iff⟩
  intro x valid sameRank
  obtain ⟨runs, shape⟩ := formed.run_shape valid sameRank
  exact ⟨by simpa using runs, shape, formed.run_keeps_iff valid sameRank⟩

/-- The first of two axes; the second is dropped. -/
def firstOfTwo : Shuffle := ⟨2, [.axis 0], false⟩

/-- Its node, with what is known of the length of the output. -/
def firstOfTwoNode (length : Option Nat) : Node :=
  ⟨.shuffle firstOfTwo, [⟨.u8, [none, none], [false, false]⟩], [⟨.u8, [length], [false]⟩]⟩

/-- Two rows of three elements become six elements if six are expected, and an array without rows
    loses its columns in any case. -/
theorem shuffle_keeps_lengths_iff_rows :
    (∃ k value, shuffle (firstOfTwoNode (some 6)) firstOfTwo {} = .ok k ∧
      k.call [⟨.u8, [2, 3], .unsigned #[1, 2, 3, 4, 5, 6]⟩] = .ok value ∧ value.shape = [6] ∧
      ¬ firstOfTwo.KeepsLengths [2, 3] value.shape) ∧
    ∃ k value, shuffle (firstOfTwoNode none) firstOfTwo {} = .ok k ∧
      k.call [⟨.u8, [0, 3], .unsigned #[]⟩] = .ok value ∧ value.shape = [0] ∧
      ¬ firstOfTwo.KeepsLengths [0, 3] value.shape := by
  have dropped (rows : Nat) (target : Shape) : ¬ firstOfTwo.KeepsLengths [rows, 3] target :=
    fun keeps => absurd (keeps.dropped 1 (by decide)) (by simp)
  constructor
  · obtain ⟨k, accepted⟩ : ∃ k, shuffle (firstOfTwoNode (some 6)) firstOfTwo {} = .ok k := ⟨_, rfl⟩
    obtain ⟨runs, shape, -⟩ := (shuffle_keeps_lengths_iff _ _ _ k accepted _ rfl).1
      ⟨.u8, [2, 3], .unsigned #[1, 2, 3, 4, 5, 6]⟩ (by decide) rfl
    obtain ⟨value, called⟩ := runs.mpr (by decide)
    exact ⟨k, value, accepted, called, shape value called, dropped 2 _⟩
  · obtain ⟨k, accepted⟩ : ∃ k, shuffle (firstOfTwoNode none) firstOfTwo {} = .ok k := ⟨_, rfl⟩
    obtain ⟨runs, shape, -⟩ := (shuffle_keeps_lengths_iff _ _ _ k accepted _ rfl).1
      ⟨.u8, [0, 3], .unsigned #[]⟩ (by decide) rfl
    obtain ⟨value, called⟩ := runs.mpr (by decide)
    exact ⟨k, value, accepted, called, shape value called, dropped 0 _⟩

end Lowering

end LoopKernels
