import LoopKernels.Lowering.Argmax
import LoopKernels.Proofs.Scalar.Order

/-!
# The first of the greatest elements

The scan of a lane carries the best element so far and its place. What it keeps is that no
element so far is a NaN, that none lies above the best one, and that those in front of it lie
strictly below. A NaN ends the scan, and so does the end of the lane; in both cases the place
is the first one that wins. Elements of a lane are of one family, so their order is linear.
-/

namespace LoopKernels.Argmax

/-- The element at a place is a NaN, or there is no NaN and the element lies below no other. -/
def Wins (values : List Scalar) (place : Nat) : Prop :=
  ∃ s, values[place]? = some s ∧
    (s.isNaN = true ∨ ∀ other ∈ values, other.isNaN = false ∧ s.below other = false)

/-- The least place that wins. -/
def First (values : List Scalar) (place : Nat) : Prop :=
  Wins values place ∧ ∀ earlier, earlier < place → ¬ Wins values earlier

/-- What the scan keeps of the elements it has met: the best of them and its place. -/
structure Leads (met : List Scalar) (best : Scalar) (place : Nat) : Prop where
  stands : met[place]? = some best
  numbers : ∀ s ∈ met, s.isNaN = false
  greatest : ∀ s ∈ met, s.height ≤ best.height
  first : ∀ earlier s, earlier < place → met[earlier]? = some s → s.height < best.height

variable {met rest values : List Scalar} {best value : Scalar} {place : Nat} {family : Family}

/-- The first element leads alone. -/
theorem leads_singleton (number : best.isNaN = false) : Leads [best] best 0 where
  stands := rfl
  numbers := by simpa using number
  greatest := by simp
  first := by
    intro earlier s before
    exact absurd before (Nat.not_lt_zero earlier)

/-- An element that is not above the best one leaves it in the lead. -/
theorem Leads.stays (leads : Leads met best place) (number : value.isNaN = false)
    (lower : value.height ≤ best.height) : Leads (met ++ [value]) best place := by
  have inside : place < met.length := (List.getElem?_eq_some_iff.mp leads.stands).1
  constructor
  · rw [List.getElem?_append_left inside, leads.stands]
  · exact List.forall_mem_append.mpr ⟨leads.numbers, List.forall_mem_singleton.mpr number⟩
  · exact List.forall_mem_append.mpr ⟨leads.greatest, List.forall_mem_singleton.mpr lower⟩
  · intro earlier s before found
    rw [List.getElem?_append_left (before.trans inside)] at found
    exact leads.first earlier s before found

/-- An element above the best one takes the lead: all elements so far lie below it. -/
theorem Leads.moves (leads : Leads met best place) (number : value.isNaN = false)
    (higher : best.height < value.height) : Leads (met ++ [value]) value met.length := by
  constructor
  · simp
  · exact List.forall_mem_append.mpr ⟨leads.numbers, List.forall_mem_singleton.mpr number⟩
  · intro s listed
    rcases List.mem_append.mp listed with earlier | last
    · exact ((leads.greatest s earlier).trans_lt higher).le
    · rw [List.mem_singleton.mp last]
  · intro earlier s before found
    rw [List.getElem?_append_left before] at found
    exact (leads.greatest s (List.mem_of_getElem? found)).trans_lt higher

/-- At the end of the lane the leader is the first that wins. -/
theorem Leads.wins (leads : Leads met best place) (alike : ∀ s ∈ met, s.family = family) :
    First met place := by
  have member : best ∈ met := List.mem_of_getElem? leads.stands
  have below : ∀ s ∈ met, ∀ other ∈ met, (s.below other = true ↔ s.height < other.height) := by
    intro s listed other otherListed
    exact Scalar.below_iff_height ((alike s listed).trans (alike other otherListed).symm)
      (leads.numbers s listed) (leads.numbers other otherListed)
  constructor
  · refine ⟨best, leads.stands, Or.inr ?_⟩
    intro other listed
    refine ⟨leads.numbers other listed, Bool.eq_false_iff.mpr ?_⟩
    intro lower
    exact absurd ((below best member other listed).mp lower) (leads.greatest other listed).not_gt
  · rintro earlier before ⟨s, found, wins⟩
    have listed : s ∈ met := List.mem_of_getElem? found
    have lower : s.below best = true :=
      (below s listed best member).mpr (leads.first earlier s before found)
    rcases wins with nan | greatest
    · simp [leads.numbers s listed] at nan
    · simp [(greatest best member).2] at lower

/-- The first NaN is the first that wins. -/
theorem first_of_isNaN (numbers : ∀ s ∈ met, s.isNaN = false) (nan : value.isNaN = true) :
    First (met ++ value :: rest) met.length := by
  constructor
  · exact ⟨value, by simp, Or.inl nan⟩
  · rintro earlier before ⟨s, found, wins⟩
    rw [List.getElem?_append_left before] at found
    have number := numbers s (List.mem_of_getElem? found)
    rcases wins with isNaN | greatest
    · simp [number] at isNaN
    · simp [(greatest value (by simp)).1] at nan

/-- The scan ends at the first place that wins.

    Induction on the elements still to come: each of them ends the scan, takes the lead or leaves
    it where it is. -/
theorem winner_first (leads : Leads met best place)
    (alike : ∀ s ∈ met ++ rest, s.family = family) :
    First (met ++ rest) (winner best place met.length rest) := by
  induction rest generalizing met best place with
  | nil =>
    rw [List.append_nil] at alike ⊢
    exact leads.wins alike
  | cons value rest inductionHypothesis =>
    have split : met ++ value :: rest = (met ++ [value]) ++ rest := by simp
    have length : (met ++ [value]).length = met.length + 1 := by simp
    rw [winner]
    by_cases nan : value.isNaN = true
    · rw [if_pos nan]
      exact first_of_isNaN leads.numbers nan
    · have number : value.isNaN = false := Bool.eq_false_iff.mpr nan
      have higher : value.above best = true ↔ best.height < value.height := by
        have member : best ∈ met := List.mem_of_getElem? leads.stands
        refine Scalar.above_iff_height ?_ number (leads.numbers best member)
        rw [alike value (by simp), alike best (by simp [member])]
      rw [if_neg nan, split, ← length]
      rw [split] at alike
      by_cases above : value.above best = true
      · rw [if_pos above]
        exact inductionHypothesis (leads.moves number (higher.mp above)) alike
      · rw [if_neg above]
        exact inductionHypothesis
          (leads.stays number (not_lt.mp fun taller => above (higher.mpr taller))) alike

/-- Scalars of one family have a first place that wins, unless there are none. -/
theorem place?_eq_some (alike : ∀ s ∈ values, s.family = family) (nonempty : values ≠ []) :
    ∃ place, place? values = some place ∧ First values place := by
  cases values with
  | nil => exact absurd rfl nonempty
  | cons first rest =>
    rw [place?]
    by_cases nan : first.isNaN = true
    · rw [if_pos nan]
      exact ⟨0, rfl, first_of_isNaN (List.forall_mem_nil _) nan⟩
    · rw [if_neg nan]
      exact ⟨_, rfl, winner_first (leads_singleton (Bool.eq_false_iff.mpr nan)) alike⟩

end LoopKernels.Argmax
