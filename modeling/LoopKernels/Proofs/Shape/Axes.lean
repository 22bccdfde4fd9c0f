import LoopKernels.Reduction.Axes
import LoopKernels.Proofs.Outcome
import Mathlib.Data.List.Sort

/-!
# Axes named by numbers

A number from zero to the rank names its own axis, and so does the same number less the
rank. A list of such numbers names a set of axes, absent numbers name them all, and
nothing else about the numbers matters: resolving gives each named axis once, sorting
puts them in the one order they have, and taking the named axes out of a list from the
highest down leaves the entries of the axes that are kept, in their order.
-/

namespace LoopKernels.Axis

/-- An axis is named by its number, or by its number less the rank; without a list every axis
    is named. -/
def Named (rank : Nat) (axes : Option (List Int)) (axis : Nat) : Prop :=
  ∀ listed ∈ axes, (axis : Int) ∈ listed ∨ (axis : Int) - rank ∈ listed

instance (rank : Nat) (axes : Option (List Int)) (axis : Nat) : Decidable (Named rank axes axis) :=
  inferInstanceAs (Decidable (∀ listed ∈ axes, _))

/-- Every number names an axis. -/
def InRange (rank : Nat) (axes : Option (List Int)) : Prop :=
  ∀ listed ∈ axes, ∀ number ∈ listed, -(rank : Int) ≤ number ∧ number < rank

/-- The axes that are not named, in increasing order. -/
def kept (rank : Nat) (axes : Option (List Int)) : List Nat :=
  (List.range rank).filter fun axis => ¬ Named rank axes axis

/-- The named axes, the highest first. -/
def highestFirst (rank : Nat) (axes : Option (List Int)) : List Nat :=
  ((List.range rank).filter fun axis => Named rank axes axis).reverse

/-- A number denotes an axis exactly when it is its number or its number less the rank. -/
theorem resolve_eq_ok (rank : Nat) (number : Int) (axis : Nat) :
    resolve rank number = .ok axis ↔
      axis < rank ∧ (number = axis ∨ number = (axis : Int) - rank) := by
  unfold resolve
  by_cases negative : number < 0
  · simp only [negative, if_true]
    split <;> simp only [reduceCtorEq, Except.ok.injEq, false_iff] <;> omega
  · simp only [negative, if_false, false_or]
    split <;> simp only [reduceCtorEq, Except.ok.injEq, false_iff] <;> omega

/-- Numbers in range resolve to the axes met before and the axes they name, each once. -/
theorem resolveInto_ok (rank : Nat) (numbers : List Int) (met : List Nat)
    (inRange : ∀ number ∈ numbers, -(rank : Int) ≤ number ∧ number < rank) (distinct : met.Nodup) :
    ∃ resolved, resolveInto rank met numbers = .ok resolved ∧ resolved.Nodup ∧
      ∀ axis, axis ∈ resolved ↔ axis ∈ met ∨
        (axis < rank ∧ ((axis : Int) ∈ numbers ∨ (axis : Int) - rank ∈ numbers)) := by
  induction numbers generalizing met with
  | nil => exact ⟨met, rfl, distinct, by simp⟩
  | cons number numbers inductionHypothesis =>
    rw [List.forall_mem_cons] at inRange
    obtain ⟨first, denotes⟩ : ∃ first, resolve rank number = .ok first := by
      by_cases negative : number < 0
      · exact ⟨(number + rank).toNat, (resolve_eq_ok _ _ _).mpr (by omega)⟩
      · exact ⟨number.toNat, (resolve_eq_ok _ _ _).mpr (by omega)⟩
    obtain ⟨bound, spelled⟩ := (resolve_eq_ok _ _ _).mp denotes
    have named : ∀ axis : Nat, (axis : Int) = number ∨ (axis : Int) - rank = number → axis < rank →
        axis = first := by
      omega
    by_cases seen : first ∈ met
    · obtain ⟨resolved, done, each, members⟩ := inductionHypothesis met inRange.2 distinct
      refine ⟨resolved, by simp [resolveInto, denotes, seen, done], each, ?_⟩
      intro axis
      rw [members axis]
      grind
    · obtain ⟨resolved, done, each, members⟩ :=
        inductionHypothesis (met ++ [first]) inRange.2 (by grind)
      refine ⟨resolved, by simp [resolveInto, denotes, seen, done], each, ?_⟩
      intro axis
      rw [members axis]
      grind

/-- Without a list every number from zero to the rank is meant. -/
theorem named_getD (rank : Nat) (axes : Option (List Int)) (axis : Nat) (inside : axis < rank) :
    ((axis : Int) ∈ axes.getD ((every rank).map Int.ofNat) ∨
      (axis : Int) - rank ∈ axes.getD ((every rank).map Int.ofNat)) ↔ Named rank axes axis := by
  cases axes with
  | none =>
    have listed : (axis : Int) ∈ (every rank).map Int.ofNat :=
      List.mem_map.mpr ⟨axis, List.mem_range.mpr inside, rfl⟩
    simp [Named, listed]
  | some listed => simp [Named]

/-- The numbers that stand for the axes are in range with them. -/
theorem inRange_getD (rank : Nat) (axes : Option (List Int)) (inRange : InRange rank axes) :
    InRange rank (some (axes.getD ((every rank).map Int.ofNat))) := by
  rintro numbers ⟨⟩
  cases axes with
  | none =>
    intro number listed
    obtain ⟨axis, below, rfl⟩ := List.mem_map.mp listed
    have := List.mem_range.mp below
    simp only [Int.ofNat_eq_natCast]
    omega
  | some listed => exact inRange listed rfl

/-- The numbers that stand for the axes resolve to the named axes, each once. -/
theorem resolveAll_ok (rank : Nat) (axes : Option (List Int)) (inRange : InRange rank axes) :
    ∃ resolved, resolveAll rank (axes.getD ((every rank).map Int.ofNat)) = .ok resolved ∧
      resolved.Nodup ∧ ∀ axis, axis ∈ resolved ↔ axis < rank ∧ Named rank axes axis := by
  obtain ⟨resolved, done, distinct, members⟩ :=
    resolveInto_ok rank _ [] (inRange_getD rank axes inRange _ rfl) List.nodup_nil
  refine ⟨resolved, done, distinct, ?_⟩
  intro axis
  rw [members axis]
  simp only [List.not_mem_nil, false_or]
  exact and_congr_right fun inside => named_getD rank axes axis inside

/-- The axes that are kept are the ones not among the resolved ones. -/
theorem others_resolved (rank : Nat) (axes : Option (List Int)) (resolved : List Nat)
    (members : ∀ axis, axis ∈ resolved ↔ axis < rank ∧ Named rank axes axis) :
    others rank resolved = kept rank axes := by
  refine List.filter_congr ?_
  intro axis below
  simp [members, List.mem_range.mp below]

/-! ## Sorted axes -/

/-- Strictly sorted lists of the same axes are the same list. -/
theorem eq_of_strict {before : Nat → Nat → Prop} (strict : ∀ a b, before a b → ¬ before b a)
    {axes other : List Nat} (sorted : axes.Pairwise before) (otherSorted : other.Pairwise before)
    (same : ∀ axis, axis ∈ axes ↔ axis ∈ other) : axes = other := by
  have once : ∀ {a b : Nat}, before a b → a ≠ b := by
    rintro a _ here rfl
    exact strict a a here here
  have listed : axes.Perm other :=
    (List.perm_ext_iff_of_nodup (sorted.imp once) (otherSorted.imp once)).mpr same
  exact listed.eq_of_pairwise (fun _ _ _ _ above below => absurd below (strict _ _ above))
    sorted otherSorted

/-- The axes are sorted by insertion. -/
theorem sortBy_eq (before : Nat → Nat → Prop) [DecidableRel before] (axes : List Nat) :
    sortBy (fun a b => decide (before a b)) axes = axes.insertionSort before := by
  have inserted : ∀ (axis : Nat) (sorted : List Nat),
      insertBy (fun a b => decide (before a b)) axis sorted =
        sorted.orderedInsert before axis := by
    intro axis sorted
    induction sorted with
    | nil => rfl
    | cons first rest inductionHypothesis =>
      simp [insertBy, List.orderedInsert, inductionHypothesis]
  induction axes with
  | nil => rfl
  | cons axis axes inductionHypothesis =>
    rw [List.insertionSort_cons, ← inductionHypothesis]
    exact inserted axis _

/-- Dropping repetitions drops no axis, and leaves each once where equal axes stand together. -/
theorem dropRepeats_spec (axes : List Nat) (sorted : axes.Pairwise (· ≤ ·)) :
    (dropRepeats axes).Pairwise (· < ·) ∧ ∀ axis, axis ∈ dropRepeats axes ↔ axis ∈ axes := by
  fun_induction dropRepeats axes with
  | case1 rest second inductionHypothesis =>
    obtain ⟨strict, members⟩ := inductionHypothesis (List.pairwise_cons.mp sorted).2
    exact ⟨strict, fun axis => by simp [members axis]⟩
  | case2 first second rest differs inductionHypothesis =>
    obtain ⟨below, later⟩ := List.pairwise_cons.mp sorted
    obtain ⟨strict, members⟩ := inductionHypothesis later
    refine ⟨List.pairwise_cons.mpr ⟨?_, strict⟩, fun axis => by simp [members axis]⟩
    intro axis listed
    -- What follows is at least the second axis, and that is above the first.
    have next : second ≤ axis := by
      rcases List.mem_cons.mp ((members axis).mp listed) with rfl | behind
      · exact Nat.le_refl _
      · exact (List.pairwise_cons.mp later).1 axis behind
    have above := below second List.mem_cons_self
    omega
  | case3 axes short =>
    refine ⟨?_, fun _ => Iff.rfl⟩
    match axes, short with
    | [], _ => exact .nil
    | [_], _ => exact List.pairwise_singleton _ _
    | first :: second :: rest, short => exact absurd rfl (short first second rest)

/-- Axes of a rank are sorted to what the list of all axes has of them. -/
theorem dropRepeats_sortBy {rank : Nat} {axes : List Nat} (inside : ∀ axis ∈ axes, axis < rank) :
    dropRepeats (sortBy (fun a b => decide (a ≤ b)) axes) =
      (every rank).filter fun axis => axis ∈ axes := by
  obtain ⟨strict, members⟩ := dropRepeats_spec _ (List.pairwise_insertionSort (· ≤ ·) axes)
  rw [sortBy_eq]
  refine eq_of_strict (fun _ _ => Nat.lt_asymm) strict (List.pairwise_lt_range.filter _) ?_
  intro axis
  rw [members, List.mem_insertionSort, every, List.mem_filter, List.mem_range, decide_eq_true_eq]
  exact ⟨fun listed => ⟨inside axis listed, listed⟩, And.right⟩

/-- The named axes are listed, and no others. -/
theorem mem_highestFirst (rank : Nat) (axes : Option (List Int)) (axis : Nat) :
    axis ∈ highestFirst rank axes ↔ axis < rank ∧ Named rank axes axis := by
  simp [highestFirst]

/-- The highest axis comes first. -/
theorem pairwise_highestFirst (rank : Nat) (axes : Option (List Int)) :
    (highestFirst rank axes).Pairwise (· > ·) := by
  simp only [highestFirst, List.pairwise_reverse]
  exact List.pairwise_lt_range.filter _

/-- The numbers that stand for the axes name the same ones. -/
theorem highestFirst_getD (rank : Nat) (axes : Option (List Int)) :
    highestFirst rank (some (axes.getD ((every rank).map Int.ofNat))) = highestFirst rank axes := by
  refine congrArg List.reverse (List.filter_congr fun axis below => ?_)
  have names := named_getD rank axes axis (List.mem_range.mp below)
  rw [decide_eq_decide, ← names]
  simp [Named]

/-- Where no axis is named there is none in the list. -/
theorem highestFirst_none {rank : Nat} {axes : Option (List Int)}
    (none : ∀ axis < rank, ¬ Named rank axes axis) : highestFirst rank axes = [] := by
  simpa [highestFirst] using none

/-- Lists that name the same axes reduce them in the same order. -/
theorem highestFirst_congr {rank : Nat} {axes other : Option (List Int)}
    (same : ∀ axis < rank, Named rank other axis ↔ Named rank axes axis) :
    highestFirst rank other = highestFirst rank axes := by
  refine congrArg List.reverse (List.filter_congr fun axis below => ?_)
  rw [decide_eq_decide, same axis (List.mem_range.mp below)]

/-- An axis that is the only one named is the only one in the list. -/
theorem highestFirst_only (rank : Nat) (axes : Option (List Int)) (axis : Nat)
    (only : ∀ other, other < rank ∧ Named rank axes other ↔ other = axis) :
    highestFirst rank axes = [axis] := by
  have distinct : (highestFirst rank axes).Nodup :=
    (pairwise_highestFirst rank axes).imp Nat.ne_of_gt
  refine List.perm_singleton.mp ((List.perm_ext_iff_of_nodup distinct
    (List.nodup_singleton axis)).mpr ?_)
  intro other
  rw [mem_highestFirst, only, List.mem_singleton]

end LoopKernels.Axis

namespace LoopKernels

/-- The list without the entries of the axes, which are taken out one after the other. -/
def eraseAxes (axes : List Nat) (xs : List Nat) : List Nat := axes.foldl List.eraseIdx xs

namespace AxesReducer

/-- The order is that of an insertion sort. -/
theorem descending_eq (axes : List Nat) : descending axes = axes.insertionSort (· ≥ ·) :=
  Axis.sortBy_eq (· ≥ ·) axes

/-- Sorting keeps the axes. -/
theorem mem_descending (axes : List Nat) (axis : Nat) : axis ∈ descending axes ↔ axis ∈ axes := by
  rw [descending_eq, List.mem_insertionSort]

/-- One axis is in order. -/
@[simp] theorem descending_singleton (axis : Nat) : descending [axis] = [axis] := rfl

/-- Distinct axes descend strictly. -/
theorem pairwise_descending {axes : List Nat} (distinct : axes.Nodup) :
    (descending axes).Pairwise (· > ·) := by
  rw [descending_eq]
  have sorted : (axes.insertionSort (· ≥ ·)).Pairwise (· ≥ ·) := List.pairwise_insertionSort _ _
  have once : (axes.insertionSort (· ≥ ·)).Nodup :=
    (List.perm_insertionSort _ axes).nodup_iff.mpr distinct
  exact (sorted.and once).imp fun both => Nat.lt_of_le_of_ne both.1 both.2.symm

/-- The order in which a chain reduces is that of the named axes from the highest down. -/
theorem descending_eq_highestFirst (rank : Nat) (axes : Option (List Int)) (resolved : List Nat)
    (distinct : resolved.Nodup)
    (members : ∀ axis, axis ∈ resolved ↔ axis < rank ∧ Axis.Named rank axes axis) :
    descending resolved = Axis.highestFirst rank axes := by
  have same : ∀ axis, axis ∈ descending resolved ↔ axis ∈ Axis.highestFirst rank axes := by
    intro axis
    rw [mem_descending, members, Axis.mem_highestFirst]
  exact Axis.eq_of_strict (fun _ _ => Nat.lt_asymm) (pairwise_descending distinct)
    (Axis.pairwise_highestFirst rank axes) same

end AxesReducer

/-- Taking one entry out of the list is the same as not choosing its axis, when no axis above
    it is listed. -/
theorem pick_others_cons (axis : Nat) (rest xs : List Nat) (highest : ∀ other ∈ rest, other < axis)
    (inside : axis < xs.length) :
    Tensor.pick xs (Axis.others xs.length (axis :: rest)) =
      Tensor.pick (xs.eraseIdx axis) (Axis.others (xs.eraseIdx axis).length rest) := by
  obtain ⟨above, total⟩ : ∃ above, xs.length = axis + (above + 1) :=
    ⟨xs.length - axis - 1, by omega⟩
  have shorter : (xs.eraseIdx axis).length = axis + above := by
    rw [List.length_eraseIdx_of_lt inside]
    omega
  rw [shorter, total]
  simp only [Axis.others, Axis.every, List.range_add, List.range_succ_eq_map, List.filter_append,
    List.map_cons, List.filter_cons, List.map_map, Tensor.pick, List.map_append]
  congr 1
  · -- Below the axis nothing moves.
    have same : (List.range axis).filter (· ∉ axis :: rest) = (List.range axis).filter (· ∉ rest) :=
      List.filter_congr fun place below => by
        have := List.mem_range.mp below
        simp only [List.mem_cons, not_or, decide_eq_decide, and_iff_right_iff_imp]
        omega
    rw [same]
    refine List.map_congr_left ?_
    intro place chosen
    have below := List.mem_range.mp (List.mem_filter.mp chosen).1
    simp only [List.getD_eq_getElem?_getD, List.getElem?_eraseIdx_of_lt below]
  · -- Above it every axis is kept and its entry moves down by one place.
    rw [if_neg (by simp), List.filter_eq_self.mpr, List.filter_eq_self.mpr]
    · simp only [List.map_map]
      refine List.map_congr_left ?_
      intro place _
      simp only [Function.comp_apply, List.getD_eq_getElem?_getD,
        List.getElem?_eraseIdx_of_ge (Nat.le_add_right axis place), Nat.succ_eq_add_one,
        Nat.add_assoc]
    · intro place chosen
      obtain ⟨index, _, rfl⟩ := List.mem_map.mp chosen
      have := fun listed => highest (axis + index) listed
      simpa using fun listed => absurd (this listed) (by omega)
    · intro place chosen
      obtain ⟨index, _, rfl⟩ := List.mem_map.mp chosen
      have := fun listed => highest (axis + (index + 1)) listed
      simpa using fun listed => absurd (this listed) (by omega)

/-- Entries taken out from the highest down leave the entries of the other axes. Each erasure
    shifts only entries above all the axes still to come. -/
theorem eraseAxes_eq_pick (axes xs : List Nat) (descends : axes.Pairwise (· > ·))
    (inside : ∀ axis ∈ axes, axis < xs.length) :
    eraseAxes axes xs = Tensor.pick xs (Axis.others xs.length axes) := by
  induction axes generalizing xs with
  | nil =>
    have all : Axis.others xs.length [] = List.range xs.length := List.filter_eq_self.mpr (by simp)
    rw [all]
    refine List.ext_getElem? ?_
    intro place
    by_cases below : place < xs.length <;> simp [eraseAxes, Tensor.pick, below]
  | cons axis rest inductionHypothesis =>
    rw [List.pairwise_cons] at descends
    have highest := inside axis List.mem_cons_self
    rw [pick_others_cons axis rest xs descends.1 highest]
    refine inductionHypothesis (xs.eraseIdx axis) descends.2 ?_
    intro other listed
    have := descends.1 other listed
    rw [List.length_eraseIdx_of_lt highest]
    omega

/-- Taking out the named axes leaves the entries of the kept axes. -/
theorem eraseAxes_highestFirst (rank : Nat) (axes : Option (List Int)) (xs : List Nat)
    (sameRank : xs.length = rank) :
    eraseAxes (Axis.highestFirst rank axes) xs = Tensor.pick xs (Axis.kept rank axes) := by
  rw [eraseAxes_eq_pick _ _ (Axis.pairwise_highestFirst rank axes), sameRank,
    Axis.others_resolved rank axes _ (Axis.mem_highestFirst rank axes)]
  intro axis listed
  rw [sameRank]
  exact ((Axis.mem_highestFirst rank axes axis).mp listed).1

end LoopKernels
