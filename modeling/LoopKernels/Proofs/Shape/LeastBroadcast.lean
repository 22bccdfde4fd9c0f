import LoopKernels.Proofs.Outcome
import LoopKernels.Proofs.Shape.Stretching
import LoopKernels.Proofs.Tensor.Representation
import LoopKernels.Tensor.Combine

/-!
# The least common shape

Alignment orders the shapes: what aligns with a shape aligns with all that the shape aligns with,
and two shapes that align with each other are one shape. Broadcasting finds the least shape in this
order with which all the given shapes align, and fails only when no shape admits them all. That says
nothing about where a shape stands in the list, how often it is listed or which shapes are met
first, so neither does the result.

An array stretches to a shape with which its own aligns, if its strides can be formed at all: they
are formed before the lengths are compared, also where no element will be read through them.

Lengths are compared from the last axis, where shapes of different ranks are aligned. An axis
that a shape does not have counts as one of length one.
-/

namespace LoopKernels.Shape

/-- The length of an axis counted from the last one. -/
def fromEnd (shape : Shape) (place : Nat) : Nat := shape.reverse.getD place 1

/-- Aligned at the last axes, each length of a shape is one or that of the target, which has at
    least as many axes. -/
def Aligns (shape target : Shape) : Prop :=
  shape.length ≤ target.length ∧
    ∀ place, shape.fromEnd place = 1 ∨ shape.fromEnd place = target.fromEnd place

/-- An array of a shape can be read as if it had the target shape. Only the shape of the array
    matters, not what it holds. -/
def Stretches (shape target : Shape) : Prop :=
  ∃ t : Tensor, t.shape = shape ∧ ∃ strides, t.stretchStrides target = .ok strides

/-- All the shapes stretch to a target. -/
def Receives (target : Shape) (shapes : List Shape) : Prop :=
  ∀ shape ∈ shapes, shape.Stretches target

/-- All the shapes align with a target. -/
def Admits (target : Shape) (shapes : List Shape) : Prop :=
  ∀ shape ∈ shapes, shape.Aligns target

/-- The shapes align with this one, and it aligns with every other that admits them. -/
structure IsLeastCommon (common : Shape) (shapes : List Shape) : Prop where
  admits : common.Admits shapes
  least : ∀ target : Shape, target.Admits shapes → common.Aligns target

/-! ## Lengths from the end -/

variable {shape other target common : Shape} {shapes : List Shape}

/-- Beyond the first axis every length counts as one. -/
theorem fromEnd_of_length_le {place : Nat} (beyond : shape.length ≤ place) :
    shape.fromEnd place = 1 := by
  simp [fromEnd, beyond]

/-- An axis counted from the front is one counted from the end. -/
theorem fromEnd_mirrored {axis : Nat} (inside : axis < shape.length) :
    shape.fromEnd (shape.length - 1 - axis) = shape.getD axis 0 := by
  have mirrored : shape.length - 1 - axis < shape.length := by omega
  have back : shape.length - 1 - (shape.length - 1 - axis) = axis := by omega
  simp [fromEnd, List.getD_eq_getElem?_getD, inside, mirrored, back]

/-- Shapes of one rank are equal when their lengths are, counted from the end. -/
theorem eq_of_fromEnd (sameRank : shape.length = other.length)
    (same : ∀ place, shape.fromEnd place = other.fromEnd place) : shape = other := by
  refine List.ext_getElem sameRank ?_
  intro axis here there
  have mirrored := same (shape.length - 1 - axis)
  rw [fromEnd_mirrored here, sameRank, fromEnd_mirrored there] at mirrored
  simpa [List.getD_eq_getElem?_getD, here, there] using mirrored

/-- Counting the axes from the end reaches the same axes. -/
theorem forall_axis_iff (rank : Nat) (holds : Nat → Prop) :
    (∀ axis, axis < rank → holds (rank - 1 - axis)) ↔ ∀ place, place < rank → holds place := by
  constructor
  · intro each place inside
    have back : rank - 1 - (rank - 1 - place) = place := by omega
    exact back ▸ each (rank - 1 - place) (by omega)
  · intro each axis inside
    exact each _ (by omega)

/-- Padding with leading axes does not move the axes that a shape has. -/
theorem getD_padTo (rank axis : Nat) (bound : shape.length ≤ rank) (inside : axis < rank) :
    (padTo rank shape).getD axis 0 = shape.fromEnd (rank - 1 - axis) := by
  by_cases leading : axis < rank - shape.length
  · rw [fromEnd_of_length_le (by omega)]
    simp [padTo, List.getD_eq_getElem?_getD, List.getElem?_append_left, leading]
  · have place : rank - 1 - axis = shape.length - 1 - (axis - (rank - shape.length)) := by omega
    rw [place, fromEnd_mirrored (by omega)]
    simp [padTo, List.getD_eq_getElem?_getD, List.getElem?_append_right, Nat.le_of_not_lt leading]

/-! ## The order of the shapes -/

/-- A shape aligns with a target where strides over the naturals read it as the target. -/
theorem aligns_iff_isSome :
    shape.Aligns target ↔ (stretch? shape target).isSome = true := by
  rw [stretch?_isSome]
  refine and_congr_right ?_
  intro bound
  have trailing : ∀ axis, axis < shape.length →
      (target.drop (target.length - shape.length)).getD axis 0 =
        target.fromEnd (shape.length - 1 - axis) := by
    intro axis inside
    have place : shape.length - 1 - axis =
        target.length - 1 - (target.length - shape.length + axis) := by omega
    rw [place, fromEnd_mirrored (by omega)]
    simp [List.getD_eq_getElem?_getD]
  have rank : shape.length = (target.drop (target.length - shape.length)).length := by
    simp only [List.length_drop]
    omega
  symm
  constructor
  · rintro ⟨-, each⟩ place
    by_cases inside : place < shape.length
    · refine (forall_axis_iff shape.length fun place =>
        shape.fromEnd place = 1 ∨ shape.fromEnd place = target.fromEnd place).mp ?_ place inside
      intro axis here
      rw [fromEnd_mirrored here, ← trailing axis here]
      exact each axis (rank ▸ here)
    · exact .inl (fromEnd_of_length_le (by omega))
  · intro each
    refine ⟨rank, ?_⟩
    intro axis inside
    rw [← rank] at inside
    rw [trailing axis inside, ← fromEnd_mirrored inside]
    exact each _

/-- Alignment goes on through a shape between. -/
theorem Aligns.trans (first : shape.Aligns other) (second : other.Aligns target) :
    shape.Aligns target :=
  ⟨Nat.le_trans first.1 second.1, fun place => stretch_trans (first.2 place) (second.2 place)⟩

/-- Shapes that align with each other are equal. -/
theorem Aligns.antisymm (there : shape.Aligns other) (back : other.Aligns shape) :
    shape = other := by
  refine eq_of_fromEnd (Nat.le_antisymm there.1 back.1) ?_
  intro place
  have first := there.2 place
  have second := back.2 place
  omega

/-- The least common shape stands for the shapes: a target admits them by admitting it. -/
theorem IsLeastCommon.aligns_iff (least : common.IsLeastCommon shapes) :
    common.Aligns target ↔ target.Admits shapes := by
  constructor
  · intro further shape listed
    exact (least.admits shape listed).trans further
  · exact least.least target

/-- There is at most one least common shape. -/
theorem IsLeastCommon.unique (first : common.IsLeastCommon shapes)
    (second : other.IsLeastCommon shapes) : common = other :=
  (first.least other second.admits).antisymm (second.least common first.admits)

/-- An array stretches where its shape aligns and its strides are words. -/
theorem stretches_iff : shape.Stretches target ↔ shape.Aligns target ∧ shape.StridesFit := by
  rw [aligns_iff_isSome, Option.isSome_iff_exists]
  constructor
  · rintro ⟨t, rfl, strides, read⟩
    obtain ⟨readable, found⟩ := Tensor.stretchStrides_eq_ok.mp read
    exact ⟨⟨strides, found⟩, readable⟩
  · rintro ⟨⟨strides, found⟩, readable⟩
    exact ⟨⟨.bool, shape, .bool #[]⟩, rfl, strides,
      Tensor.stretchStrides_eq_ok.mpr ⟨readable, found⟩⟩

/-- What receives shapes admits them. -/
theorem Receives.admits (receives : target.Receives shapes) : target.Admits shapes :=
  fun shape listed => (stretches_iff.mp (receives shape listed)).1

/-! ## Broadcasting -/

/-- Broadcasting gives the common shape where there is one. -/
theorem broadcast_eq_ok_iff :
    broadcast shapes = .ok common ↔ broadcast? shapes = some common := by
  unfold broadcast
  cases broadcast? shapes <;> simp

/-- A common length of shapes at a place: each of them has it or length one, and it is one unless
    one of them has it. -/
def CommonAt (shapes : List Shape) (common : Shape) (place : Nat) : Prop :=
  (∀ shape ∈ shapes, shape.fromEnd place = 1 ∨ shape.fromEnd place = common.fromEnd place) ∧
    (common.fromEnd place = 1 ∨ ∃ shape ∈ shapes, common.fromEnd place = shape.fromEnd place)

/-- The result of broadcasting has the greatest rank and a common length at every place. -/
theorem broadcast_eq_ok :
    broadcast shapes = .ok common ↔
      common.length = maxRank shapes ∧ ∀ place, CommonAt shapes common place := by
  rw [broadcast_eq_ok_iff, broadcast?_eq_some]
  refine and_congr_right ?_
  intro rank
  have ranks : ∀ shape ∈ shapes, shape.length ≤ common.length := rank ▸ (maxRank_spec shapes).1
  have padded : ∀ axis, axis < common.length →
      (((∀ shape ∈ shapes, (padTo common.length shape).getD axis 0 = 1 ∨
            (padTo common.length shape).getD axis 0 = common.getD axis 0) ∧
          (common.getD axis 0 = 1 ∨
            ∃ shape ∈ shapes, common.getD axis 0 = (padTo common.length shape).getD axis 0)) ↔
        CommonAt shapes common (common.length - 1 - axis)) := by
    intro axis inside
    have each : ∀ shape ∈ shapes, (padTo common.length shape).getD axis 0 =
        shape.fromEnd (common.length - 1 - axis) := fun shape listed =>
      getD_padTo common.length axis (ranks shape listed) inside
    rw [← fromEnd_mirrored inside]
    refine and_congr (forall₂_congr ?_) (or_congr_right (exists_congr ?_))
    · intro shape listed
      rw [each shape listed]
    · intro shape
      refine and_congr_right ?_
      intro listed
      rw [each shape listed]
  rw [forall₂_congr padded, forall_axis_iff]
  constructor
  · intro each place
    by_cases inside : place < common.length
    · exact each place inside
    · have beyond : ∀ shape ∈ shapes, shape.fromEnd place = 1 := fun shape listed =>
        fromEnd_of_length_le (Nat.le_trans (ranks shape listed) (by omega))
      exact ⟨fun shape listed => .inl (beyond shape listed),
        .inl (fromEnd_of_length_le (by omega))⟩
  · intro each place _
    exact each place

/-- What broadcasting gives is the least common shape. -/
theorem isLeastCommon_of_broadcast (found : broadcast shapes = .ok common) :
    common.IsLeastCommon shapes := by
  obtain ⟨rank, each⟩ := broadcast_eq_ok.mp found
  obtain ⟨above, least⟩ := maxRank_spec shapes
  constructor
  · intro shape listed
    exact ⟨rank ▸ above shape listed, fun place => (each place).1 shape listed⟩
  · intro target admits
    have ranks : common.length ≤ target.length :=
      rank ▸ least target.length fun shape listed => (admits shape listed).1
    refine ⟨ranks, ?_⟩
    intro place
    rcases (each place).2 with one | ⟨shape, listed, same⟩
    · exact .inl one
    · rw [same]
      exact (admits shape listed).2 place

/-- The part of a target that the shapes need: their greatest rank, and the lengths of the target
    where one of them has a length other than one. -/
def needed (shapes : List Shape) (target : Shape) : Shape :=
  ((List.range (maxRank shapes)).map fun place =>
    if ∃ shape ∈ shapes, shape.fromEnd place ≠ 1 then target.fromEnd place else 1).reverse

/-- The needed shape takes a length from the target where some shape has another length than
    one. -/
theorem fromEnd_needed (shapes : List Shape) (target : Shape) (place : Nat) :
    (needed shapes target).fromEnd place =
      if ∃ shape ∈ shapes, shape.fromEnd place ≠ 1 then target.fromEnd place else 1 := by
  by_cases inside : place < maxRank shapes
  · simp [fromEnd, needed, List.getD_eq_getElem?_getD, inside]
  · have ones : ¬ ∃ shape ∈ shapes, shape.fromEnd place ≠ 1 := by
      rintro ⟨shape, listed, long⟩
      have rank := (maxRank_spec shapes).1 shape listed
      exact long (fromEnd_of_length_le (by omega))
    rw [if_neg ones]
    exact fromEnd_of_length_le (by simp [needed]; omega)

/-- Shapes that stretch to some target have a common shape. -/
theorem broadcast_of_admits (admits : target.Admits shapes) :
    broadcast shapes = .ok (needed shapes target) := by
  refine broadcast_eq_ok.mpr ⟨by simp [needed], ?_⟩
  intro place
  rw [CommonAt, fromEnd_needed]
  split
  next long =>
    obtain ⟨longest, member, other⟩ := long
    refine ⟨fun shape listed => (admits shape listed).2 place, .inr ?_⟩
    have same := (admits longest member).2 place
    exact ⟨longest, member, (same.resolve_left other).symm⟩
  next ones =>
    refine ⟨fun shape listed => .inl ?_, .inl rfl⟩
    by_contra long
    exact ones ⟨shape, listed, long⟩

/-- Broadcasting gives exactly the least common shape. -/
theorem broadcast_eq_ok_iff_isLeastCommon :
    broadcast shapes = .ok common ↔ common.IsLeastCommon shapes := by
  constructor
  · exact isLeastCommon_of_broadcast
  · intro least
    have found := broadcast_of_admits least.admits
    rw [found]
    exact congrArg Except.ok ((isLeastCommon_of_broadcast found).unique least)

/-- Shapes have a common shape exactly when some shape admits them. -/
theorem exists_broadcast_iff :
    (∃ common, broadcast shapes = .ok common) ↔ ∃ target : Shape, target.Admits shapes := by
  constructor
  · rintro ⟨common, found⟩
    exact ⟨common, (isLeastCommon_of_broadcast found).admits⟩
  · rintro ⟨target, admits⟩
    exact ⟨_, broadcast_of_admits admits⟩

/-! ## Order, repetition and groups -/

/-- Only the shapes that receive the list decide what broadcasting gives. -/
theorem toOption_broadcast_congr {others : List Shape}
    (same : ∀ target : Shape, target.Admits shapes ↔ target.Admits others) :
    (broadcast shapes).toOption = (broadcast others).toOption := by
  have least : ∀ common : Shape, common.IsLeastCommon shapes ↔ common.IsLeastCommon others := by
    intro common
    constructor
    · intro found
      refine ⟨(same common).mp found.admits, fun target all => ?_⟩
      exact found.least target ((same target).mpr all)
    · intro found
      refine ⟨(same common).mpr found.admits, fun target all => ?_⟩
      exact found.least target ((same target).mp all)
  have value : ∀ (list : List Shape) (common : Shape),
      (broadcast list).toOption = some common ↔ common.IsLeastCommon list := by
    intro list common
    rw [← broadcast_eq_ok_iff_isLeastCommon]
    cases broadcast list <;> simp [Except.toOption]
  refine Option.ext ?_
  intro common
  rw [value, value, least]

/-- A target admits the common shapes of groups exactly when it admits all their shapes.

    Induction on the groups; each common shape stands for its group. -/
theorem admits_groups {groups : List (List Shape)} {results : List Shape}
    (found : groups.mapM broadcast = .ok results) (target : Shape) :
    target.Admits results ↔ target.Admits groups.flatten := by
  rw [Outcome.mapM_eq_ok] at found
  induction groups generalizing results with
  | nil =>
    obtain rfl : results = [] := by simpa using found.symm
    rfl
  | cons group groups inductionHypothesis =>
    cases results with
    | nil => simp at found
    | cons common results =>
      obtain ⟨first, rest⟩ : broadcast group = .ok common ∧
          groups.map broadcast = results.map .ok := by simpa using found
      have others := inductionHypothesis rest
      have here : common.Aligns target ↔ target.Admits group :=
        (isLeastCommon_of_broadcast first).aligns_iff
      unfold Admits at here others ⊢
      rw [List.forall_mem_cons, List.flatten_cons, List.forall_mem_append, here, others]

/-- Broadcasting groups first, and then their common shapes, gives what broadcasting all the shapes
    at once gives. A group without a common shape leaves none for all of them. -/
theorem toOption_broadcast_groups (groups : List (List Shape)) :
    (groups.mapM broadcast >>= broadcast).toOption = (broadcast groups.flatten).toOption := by
  cases found : groups.mapM broadcast with
  | ok results => exact toOption_broadcast_congr (admits_groups found)
  | error e =>
    obtain ⟨group, listed, failed⟩ := Outcome.exists_of_mapM_error broadcast groups e found
    cases whole : broadcast groups.flatten with
    | error _ => rfl
    | ok common =>
      have admits := (isLeastCommon_of_broadcast whole).admits
      have part : common.Admits group := fun shape member =>
        admits shape (List.mem_flatten_of_mem listed member)
      rw [broadcast_of_admits part] at failed
      cases failed

/-- Broadcasting gives the least shape with which all the listed shapes align, and fails exactly
    when there is no shape with which they do. A listed shape stretches to the result exactly when
    its strides are words, and the result stretches exactly under that condition to each shape to
    which all of them stretch; where broadcasting fails, they stretch to no shape. The result
    depends neither on the order of the shapes nor on repetitions, and shapes may be broadcast in
    groups. -/
theorem broadcast_is_least (shapes : List Shape) :
    (∀ common : Shape, broadcast shapes = .ok common →
      (∀ shape ∈ shapes, shape.Stretches common ↔ shape.StridesFit) ∧
      ∀ target : Shape, target.Receives shapes → (common.Stretches target ↔ common.StridesFit)) ∧
    (∀ error, broadcast shapes = .error error → ¬ ∃ target : Shape, target.Receives shapes) ∧
    (∀ common : Shape, broadcast shapes = .ok common ↔ common.IsLeastCommon shapes) ∧
    ((∃ error, broadcast shapes = .error error) ↔ ¬ ∃ target : Shape, target.Admits shapes) ∧
    (∀ others : List Shape, (∀ shape, shape ∈ others ↔ shape ∈ shapes) →
      (broadcast others).toOption = (broadcast shapes).toOption) ∧
    ∀ groups : List (List Shape), (∀ shape, shape ∈ groups.flatten ↔ shape ∈ shapes) →
      (groups.mapM broadcast >>= broadcast).toOption = (broadcast shapes).toOption := by
  have members : ∀ others : List Shape, (∀ shape, shape ∈ others ↔ shape ∈ shapes) →
      (broadcast others).toOption = (broadcast shapes).toOption := by
    intro others same
    refine toOption_broadcast_congr ?_
    intro target
    simp only [Admits, same]
  have fails : (∃ error, broadcast shapes = .error error) ↔
      ¬ ∃ target : Shape, target.Admits shapes := by
    rw [← exists_broadcast_iff]
    cases broadcast shapes <;> simp
  refine ⟨?_, ?_, fun common => broadcast_eq_ok_iff_isLeastCommon, fails, members, ?_⟩
  · intro common found
    have least := isLeastCommon_of_broadcast found
    constructor
    · intro shape listed
      rw [stretches_iff]
      exact and_iff_right (least.admits shape listed)
    · intro target receives
      rw [stretches_iff]
      exact and_iff_right (least.least target receives.admits)
  · rintro error failed ⟨target, receives⟩
    exact fails.mp ⟨error, failed⟩ ⟨target, receives.admits⟩
  · intro groups same
    rw [toOption_broadcast_groups]
    exact members groups.flatten same

/-- Shapes of three ranks, one of them empty, at once and in two groups; and shapes that stretch to
    their common shape, which does not stretch to itself. -/
theorem broadcast_is_least_ranks :
    IsLeastCommon [4, 1, 0] [[1], [4, 1, 1], [0], []] ∧
      ([[[0], [1]], [[], [4, 1, 1], [0]]].mapM broadcast >>= broadcast).toOption =
        some [4, 1, 0] ∧
      Receives [0, 2 ^ 32, 2 ^ 32] [[0, 2 ^ 32, 1], [0, 1, 2 ^ 32]] ∧
      ¬ Stretches [0, 2 ^ 32, 2 ^ 32] [0, 2 ^ 32, 2 ^ 32] := by
  obtain ⟨-, -, least, -, -, grouped⟩ := broadcast_is_least [[1], [4, 1, 1], [0], []]
  have found : broadcast [[1], [4, 1, 1], [0], []] = .ok [4, 1, 0] := by decide
  have members : ∀ shape, shape ∈ [[[0], [1]], [[], [4, 1, 1], [0]]].flatten ↔
      shape ∈ [[1], [4, 1, 1], [0], []] := by grind
  obtain ⟨stretches, further⟩ := (broadcast_is_least [[0, 2 ^ 32, 1], [0, 1, 2 ^ 32]]).1
    [0, 2 ^ 32, 2 ^ 32] (by decide)
  have words : ∀ shape ∈ [[0, 2 ^ 32, 1], [0, 1, 2 ^ 32]], StridesFit shape := by decide
  have receives : Receives [0, 2 ^ 32, 2 ^ 32] [[0, 2 ^ 32, 1], [0, 1, 2 ^ 32]] :=
    fun shape listed => (stretches shape listed).mpr (words shape listed)
  refine ⟨(least [4, 1, 0]).mp found, ?_, receives, ?_⟩
  · rw [grouped _ members, found]
    rfl
  · rw [further _ receives]
    decide

example : (broadcast [[3, 1], [2], [0]]).toOption = none := by decide

end LoopKernels.Shape
