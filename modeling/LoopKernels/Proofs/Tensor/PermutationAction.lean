import LoopKernels.Proofs.Tensor.Reshaping
import LoopKernels.Proofs.Tensor.Transposition
import Mathlib.Data.List.Nodup

/-!
# Permutations acting on arrays

The axes of an array can be permuted by permutations of them and by nothing else. One permutation
after another is a single one, which lists at each place the axis that the first one lists where the
second one points. So the axes in their order leave an array as it is, and the inverse of a
permutation brings back the array that was permuted. The elements are copied twice on the way, each
time in the row-major order of the new shape; that the copies agree follows from what they
represent.

Every permutation but the axes in their order forms the strides of the array that it permutes. These
may leave the word when the array has no elements, and then the program ends: before the first
permutation, or between the two, for a permuted shape has other strides.
-/

namespace LoopKernels.Tensor

variable {p q : List Nat} {rank : Nat}

/-- The places at which the axes are listed, in the order of the axes. -/
def inverse (p : List Nat) : List Nat := (List.range p.length).map p.idxOf

/-- The check on a list of axes passes for the permutations of the axes. -/
theorem isPermutation_iff_perm : IsPermutation p rank ↔ p.Perm (List.range rank) := by
  constructor
  · exact IsPermutation.perm
  · intro perm
    refine ⟨by simpa using perm.length_eq, ?_, perm.nodup_iff.mpr List.nodup_range⟩
    intro axis listed
    exact List.mem_range.mp (perm.mem_iff.mp listed)

namespace IsPermutation

/-- Entries picked by one permutation after another are picked at the places picked. -/
theorem pick_pick (first : IsPermutation p rank) (second : IsPermutation q rank) (xs : List Nat) :
    pick (pick xs p) q = pick xs (pick p q) := by
  unfold pick
  rw [List.map_map]
  refine List.map_congr_left ?_
  intro place listed
  have bound : place < p.length := first.1 ▸ second.2.1 place listed
  exact getD_pick xs place bound

/-- A permutation picked by another is a permutation. -/
theorem comp (first : IsPermutation p rank) (second : IsPermutation q rank) :
    IsPermutation (pick p q) rank := by
  rw [isPermutation_iff_perm]
  have picked : (pick p q).Perm ((List.range p.length).map (p.getD · 0)) := by
    rw [first.1]
    exact second.perm.map _
  rw [map_getD_range] at picked
  exact picked.trans first.perm

/-- The source of a coordinate under two permutations is found one after the other. -/
theorem unpick_unpick (first : IsPermutation p rank) (second : IsPermutation q rank) (coord : Coord)
    (sameLength : coord.length = rank) :
    unpick (pick p q) coord = unpick p (unpick q coord) := by
  -- Permuting what the right side names gives the coordinate, so it is the source of it.
  have middle : (unpick q coord).length = rank := by simp [unpick, second.1]
  have source : (unpick p (unpick q coord)).length = rank := by simp [unpick, first.1]
  have back : pick (unpick p (unpick q coord)) (pick p q) = coord := by
    rw [← first.pick_pick second, first.pick_unpick _ middle, second.pick_unpick coord sameLength]
  calc unpick (pick p q) coord
      = unpick (pick p q) (pick (unpick p (unpick q coord)) (pick p q)) := by rw [back]
    _ = unpick p (unpick q coord) := (first.comp second).unpick_pick _ source

/-- The axes in their order are a permutation. -/
theorem range (rank : Nat) : IsPermutation (List.range rank) rank :=
  isPermutation_iff_perm.mpr (List.Perm.refl _)

/-- A permutation picks itself from the axes in order. -/
theorem pick_range (permutes : IsPermutation p rank) : pick (List.range rank) p = p := by
  unfold pick
  refine (List.map_congr_left ?_).trans (List.map_id p)
  intro axis listed
  simp [permutes.2.1 axis listed]

/-- At the place of an axis the permutation lists the axis. -/
theorem pick_inverse (permutes : IsPermutation p rank) : pick p (inverse p) = List.range rank := by
  unfold pick inverse
  rw [List.map_map, permutes.1]
  refine (List.map_congr_left ?_).trans (List.map_id _)
  intro axis listed
  exact (permutes.getD_idxOf axis (List.mem_range.mp listed)).2

/-- The inverse of a permutation is one. -/
theorem inverse (permutes : IsPermutation p rank) : IsPermutation (Tensor.inverse p) rank := by
  refine ⟨by simp [Tensor.inverse, permutes.1], ?_, ?_⟩
  · intro place listed
    obtain ⟨axis, below, rfl⟩ := List.mem_map.mp listed
    rw [permutes.1] at below
    exact (permutes.getD_idxOf axis (List.mem_range.mp below)).1
  · -- Places that agree hold the same axis.
    refine List.Nodup.map_on ?_ List.nodup_range
    intro axis here other there same
    rw [permutes.1, List.mem_range] at here there
    rw [← (permutes.getD_idxOf axis here).2, same, (permutes.getD_idxOf other there).2]

end IsPermutation

/-! ## Permuted arrays -/

variable {t : Tensor}

/-- The axes of an array can be permuted by the permutations of them only, and only where the
    strides are words or not needed. -/
theorem transpose_ok_iff (valid : t.Valid) (p : List Nat) :
    (∃ u, t.transpose p = .ok u) ↔ p.Perm (List.range t.rank) ∧ TransposeFits t.shape p := by
  rw [← isPermutation_iff_perm]
  constructor
  · rintro ⟨u, transposed⟩
    rw [transpose_eq] at transposed
    split at transposed
    next permutes =>
      refine ⟨permutes, ?_⟩
      split at transposed
      next ordered => exact .inl ordered
      next =>
        split at transposed
        next readable => exact .inr readable
        next => cases transposed
    next => cases transposed
  · rintro ⟨permutes, fits⟩
    obtain ⟨u, transposed, -⟩ := valid.represents.transpose permutes fits
    exact ⟨u, transposed⟩

/-- What is no permutation is refused; a permutation fails for strides that are no words. -/
theorem transpose_error (p : List Nat) :
    (¬ p.Perm (List.range t.rank) → t.transpose p = .error (.permutation p t.rank)) ∧
      (p.Perm (List.range t.rank) → ¬ TransposeFits t.shape p →
        t.transpose p = .error .overflow) := by
  rw [← isPermutation_iff_perm]
  refine ⟨fun refused => ?_, transpose_overflow⟩
  rw [transpose_eq, if_neg refused]

/-- The permuted array represents the elements at the coordinates from which its own come. -/
theorem transpose_represents (valid : t.Valid) {u : Tensor} (transposed : t.transpose p = .ok u) :
    IsPermutation p t.rank ∧
      u.Represents t.elem (pick t.shape p) fun coord => t.element (unpick p coord) := by
  obtain ⟨perm, fits⟩ := (transpose_ok_iff valid p).mp ⟨u, transposed⟩
  have permutes : IsPermutation p t.rank := isPermutation_iff_perm.mpr perm
  obtain ⟨v, again, represents⟩ := valid.represents.transpose permutes fits
  obtain rfl : v = u := Except.ok.inj (again.symm.trans transposed)
  exact ⟨permutes, represents⟩

/-- Strides that are words for two permutations one after the other are so for the single one. -/
theorem TransposeFits.comp {shape : Shape} (first : IsPermutation p shape.length)
    (second : IsPermutation q shape.length) (once : TransposeFits shape p)
    (twice : TransposeFits (pick shape p) q) : TransposeFits shape (pick p q) := by
  rcases once with rfl | readable
  · rw [pick_range_length] at twice
    rcases twice with rfl | readable
    · exact .inl second.pick_range
    · exact .inr readable
  · exact .inr readable

/-- One permutation after another is the one that the second picks from the first. -/
theorem transpose_transpose (valid : t.Valid) (first : IsPermutation p t.rank)
    (second : IsPermutation q t.rank) (once : TransposeFits t.shape p)
    (twice : TransposeFits (pick t.shape p) q) :
    (t.transpose p >>= fun u => u.transpose q) = t.transpose (pick p q) := by
  obtain ⟨u, moved, represents⟩ := valid.represents.transpose first once
  have again : IsPermutation q (pick t.shape p).length := by simpa [pick, first.1] using second
  obtain ⟨v, movedAgain, composed⟩ := represents.transpose again twice
  obtain ⟨w, direct, single⟩ := valid.represents.transpose (first.comp second)
    (once.comp first second twice)
  rw [first.pick_pick second] at composed
  have same : v = w := by
    refine composed.unique w (single.congr _ ?_)
    intro coord inside
    have length : coord.length = t.rank := by
      rw [Shape.length_of_contains _ coord inside]
      simp [pick, second.1]
    rw [first.unpick_unpick second coord length]
  rw [moved, Outcome.bind_ok, movedAgain, direct, same]

/-- Two permutations fail one after the other where one of them needs strides that are no words. -/
theorem transpose_transpose_error (valid : t.Valid) (first : IsPermutation p t.rank)
    (second : IsPermutation q t.rank)
    (tooLarge : ¬ (TransposeFits t.shape p ∧ TransposeFits (pick t.shape p) q)) :
    (t.transpose p >>= fun u => u.transpose q) = .error .overflow := by
  by_cases once : TransposeFits t.shape p
  · obtain ⟨u, moved, represents⟩ := valid.represents.transpose first once
    have rank : u.rank = t.rank := by simp [Tensor.rank, represents.shape_eq, pick, first.1]
    rw [moved, Outcome.bind_ok]
    refine (transpose_error q).2 (isPermutation_iff_perm.mp (rank ▸ second)) ?_
    rw [represents.shape_eq]
    exact fun twice => tooLarge ⟨once, twice⟩
  · rw [(transpose_error p).2 (isPermutation_iff_perm.mp first) once]
    rfl

/-- The axes in their order leave an array as it is. -/
theorem transpose_range (t : Tensor) : t.transpose (List.range t.rank) = .ok t := by
  rw [transpose_eq, if_pos (IsPermutation.range t.rank), if_pos rfl]

/-- The inverse brings back what was permuted. -/
theorem transpose_inverse (valid : t.Valid) (permutes : IsPermutation p t.rank)
    (once : TransposeFits t.shape p) (twice : TransposeFits (pick t.shape p) (inverse p)) :
    (t.transpose p >>= fun u => u.transpose (inverse p)) = .ok t := by
  rw [transpose_transpose valid permutes permutes.inverse once twice, permutes.pick_inverse,
    transpose_range]

/-- Lengths one, but for one axis of length two. -/
def marked (rank axis : Nat) : Shape :=
  List.replicate axis 1 ++ 2 :: List.replicate (rank - axis - 1) 1

/-- A marked shape has all axes. -/
theorem length_marked {axis : Nat} (bound : axis < rank) : (marked rank axis).length = rank := by
  simp only [marked, List.length_append, List.length_replicate, List.length_cons]
  omega

/-- Only the marked axis has length two. -/
theorem getD_marked {axis other : Nat} (bound : axis < rank) (inside : other < rank) :
    (marked rank axis).getD other 0 = 2 ↔ other = axis := by
  have entry : (marked rank axis).getD other 0 = if other = axis then 2 else 1 := by
    simp only [marked, List.getD_eq_getElem?_getD, List.getElem?_append, List.length_replicate,
      List.getElem?_replicate, List.getElem?_cons]
    grind
  rw [entry]
  split <;> simp_all

/-- Arrays with one long axis tell the permutations apart. -/
theorem eq_of_transpose_eq (first : IsPermutation p rank) (second : IsPermutation q rank)
    (same : ∀ u : Tensor, u.Valid → u.rank = rank → u.transpose p = u.transpose q) : p = q := by
  refine List.ext_getElem (first.1.trans second.1.symm) ?_
  intro place here there
  have bound : place < rank := first.1 ▸ here
  -- The long axis is the one that the first permutation lists at the place.
  have axisBound : p.getD place 0 < rank := first.2.1 _ (by simp [here])
  have otherBound : q.getD place 0 < rank := second.2.1 _ (by simp [there])
  have length := length_marked axisBound
  have full : 0 ∉ marked rank (p.getD place 0) := by simp [marked]
  have count : Shape.count (marked rank (p.getD place 0)) < Word.limit := by
    rw [marked, Shape.count_append, Shape.count_cons, Shape.count_ones, Shape.count_ones]
    decide
  have readable := Shape.stridesFit_of_full full count
  obtain ⟨x, -, represents⟩ := full_represents (marked rank (p.getD place 0)) (.int 0) .i64
    (Shape.countFits_of_full full count)
  have agree := same x represents.valid (by rw [Tensor.rank, represents.shape_eq, length])
  rw [← length] at first second
  obtain ⟨u, left, leftShape⟩ := represents.transpose first (.inr readable)
  obtain ⟨v, right, rightShape⟩ := represents.transpose second (.inr readable)
  rw [left, right] at agree
  obtain rfl : u = v := Except.ok.inj agree
  have lengths := congrArg (·.getD place 0) (leftShape.shape_eq.symm.trans rightShape.shape_eq)
  simp only [getD_pick _ place here, getD_pick _ place there] at lengths
  have mark := (getD_marked axisBound axisBound).mpr rfl
  rw [lengths, getD_marked axisBound otherBound] at mark
  simpa [here, there] using mark.symm

/-- Permuting axes is a faithful action of the permutations of the axes on the arrays of a rank.
    It succeeds for the permutations, unless it needs strides that are no words. The result has the
    length of the listed axis at each place, and its element at a coordinate is the one whose entry
    on each listed axis is the entry at the place where the axis is listed. One permutation after
    another is their product and a permutation is undone by its inverse, unless one of the two steps
    needs strides that are no words. -/
theorem transpose_is_action (t : Tensor) (valid : t.Valid) :
    (∀ p, (∃ u, t.transpose p = .ok u) ↔
      p.Perm (List.range t.rank) ∧ (p = List.range t.rank ∨ t.shape.StridesFit)) ∧
    (∀ p, (¬ p.Perm (List.range t.rank) → t.transpose p = .error (.permutation p t.rank)) ∧
      (p.Perm (List.range t.rank) → ¬ TransposeFits t.shape p →
        t.transpose p = .error .overflow)) ∧
    (∀ p u, t.transpose p = .ok u →
      u.Valid ∧ u.elem = t.elem ∧ u.rank = t.rank ∧
      (∀ i < t.rank, u.shape.getD i 0 = t.shape.getD (p.getD i 0) 0) ∧
      ∀ coord, Shape.contains u.shape coord = true →
        ∃ source, Shape.contains t.shape source = true ∧
          (∀ i < t.rank, source.getD (p.getD i 0) 0 = coord.getD i 0) ∧
          u.get coord = t.get source) ∧
    (∀ p q, p.Perm (List.range t.rank) → q.Perm (List.range t.rank) →
      (TransposeFits t.shape p ∧ TransposeFits (pick t.shape p) q →
        (do let u ← t.transpose p; u.transpose q) = t.transpose (q.map fun i => p.getD i 0)) ∧
      (¬ (TransposeFits t.shape p ∧ TransposeFits (pick t.shape p) q) →
        (do let u ← t.transpose p; u.transpose q) = .error .overflow)) ∧
    t.transpose (List.range t.rank) = .ok t ∧
    (∀ p, p.Perm (List.range t.rank) →
      (inverse p).Perm (List.range t.rank) ∧
      (∀ i < t.rank, p.getD ((inverse p).getD i 0) 0 = i) ∧
      (TransposeFits t.shape p ∧ TransposeFits (pick t.shape p) (inverse p) →
        (do let u ← t.transpose p; u.transpose (inverse p)) = .ok t)) ∧
    (∀ p q, p.Perm (List.range t.rank) → q.Perm (List.range t.rank) →
      (∀ u : Tensor, u.Valid → u.rank = t.rank → u.transpose p = u.transpose q) → p = q) := by
  refine ⟨transpose_ok_iff valid, transpose_error, ?_, ?_, transpose_range t, ?_, ?_⟩
  · intro p u transposed
    obtain ⟨permutes, represents⟩ := transpose_represents valid transposed
    have rank : u.rank = t.rank := by simp [Tensor.rank, represents.shape_eq, pick, permutes.1]
    refine ⟨represents.valid, represents.elem_eq, rank, ?_, ?_⟩
    · intro i bound
      rw [represents.shape_eq, getD_pick t.shape i (permutes.1 ▸ bound)]
    · intro coord inside
      have length : coord.length = t.rank := (Shape.length_of_contains _ coord inside).trans rank
      rw [represents.shape_eq] at inside
      have source := permutes.contains_unpick t.shape rfl coord inside
      refine ⟨unpick p coord, source, ?_, ?_⟩
      · intro i bound
        rw [← getD_pick _ i (permutes.1 ▸ bound), permutes.pick_unpick coord length]
      · rw [represents.get_eq coord inside, valid.represents.get_eq _ source]
  · intro p q first second
    rw [← isPermutation_iff_perm] at first second
    exact ⟨fun fits => transpose_transpose valid first second fits.1 fits.2,
      transpose_transpose_error valid first second⟩
  · intro p perm
    have permutes := isPermutation_iff_perm.mpr perm
    refine ⟨isPermutation_iff_perm.mp permutes.inverse, ?_,
      fun fits => transpose_inverse valid permutes fits.1 fits.2⟩
    intro i bound
    rw [← getD_pick p i (permutes.inverse.1 ▸ bound), permutes.pick_inverse]
    simp [bound]
  · intro p q first second same
    exact eq_of_transpose_eq (isPermutation_iff_perm.mpr first)
      (isPermutation_iff_perm.mpr second) same

/-- Two layers of one row of three elements. -/
def layers : Tensor := ⟨.i16, [2, 1, 3], .signed #[1, 2, 3, 4, 5, 6]⟩

/-- No elements, before lengths whose product is no word. -/
def trailing : Tensor := ⟨.i64, [2 ^ 32, 2 ^ 32, 0], .signed #[]⟩

/-- Two turns of the axes make the opposite turn, which undoes a turn. An array without elements is
    turned once, and then its strides leave the word. -/
theorem transpose_is_action_turn :
    layers.transpose [2, 0, 1] = .ok ⟨.i16, [3, 2, 1], .signed #[1, 4, 2, 5, 3, 6]⟩ ∧
      (do let u ← layers.transpose [2, 0, 1]; u.transpose [2, 0, 1]) =
        layers.transpose [1, 2, 0] ∧
      (do let u ← layers.transpose [2, 0, 1]; u.transpose [1, 2, 0]) = .ok layers ∧
      (∃ u, trailing.transpose [2, 0, 1] = .ok u) ∧
      (do let u ← trailing.transpose [2, 0, 1]; u.transpose [1, 2, 0]) = .error .overflow := by
  obtain ⟨-, -, -, composes, -, returns, -⟩ := transpose_is_action layers (by decide)
  obtain ⟨exact, -, -, fails, -⟩ := transpose_is_action trailing (by decide)
  refine ⟨by decide +kernel, ?_, ?_, ?_, ?_⟩
  · exact (composes [2, 0, 1] [2, 0, 1] (by decide) (by decide)).1 (by decide)
  · exact (returns [2, 0, 1] (by decide)).2.2 (by decide)
  · exact (exact [2, 0, 1]).mpr (by decide)
  · exact (fails [2, 0, 1] [1, 2, 0] (by decide) (by decide)).2 (by decide)

end LoopKernels.Tensor
