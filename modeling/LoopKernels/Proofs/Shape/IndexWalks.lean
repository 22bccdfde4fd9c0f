import LoopKernels.Proofs.Shape.Words
import Mathlib.Data.List.Forall2
import Mathlib.Logic.ExistsUnique

/-!
# Four walks over one numbering

The odometer counts the coordinates of a shape up with a carry, division takes a position apart
from the last axis on, the strides are products formed from the last axis on, and the offset adds
up what they contribute. None of the four refers to another, and every loop over an array relies on
their agreement: the call of a number gives the coordinate that division finds at that number, and
its offset is the number again. Since the offsets of different calls differ, no coordinate is given
twice, and since every coordinate has an offset, none is left out.

Calls are numbered from zero. The numbering also says what happens behind the last coordinate: the
call with the number of elements gives nothing, and so do all calls after it.

The odometer and the division need no word beyond the lengths and the position. The count and the
strides are multiplied up and may leave the word, even where the odometer gives nothing.
-/

namespace LoopKernels

/-- What a call gives, by the number of calls before it. -/
def Odometer.given (o : Odometer) : Nat → Option Coord
  | 0 => o.call.1
  | number + 1 => o.call.2.given number

namespace Shape

variable {shape : Shape} {coord : Coord}

/-- A coordinate lies inside a shape when it is below the shape on every axis. -/
theorem contains_iff_forall₂ :
    contains shape coord = true ↔ List.Forall₂ (· < ·) coord shape := by
  induction shape generalizing coord with
  | nil => rw [contains_nil, List.forall₂_nil_right_iff]
  | cons length shape inductionHypothesis =>
    cases coord with
    | nil => simp
    | cons index coord => rw [contains_cons, List.forall₂_cons, inductionHypothesis]

/-- The coordinate at a position is the one inside the shape whose offset is the position. -/
theorem coordAt?_eq_some {position : Nat} :
    coordAt? shape position = some coord ↔
      contains shape coord = true ∧ offset coord (strides shape) = position := by
  constructor
  · intro found
    by_cases bound : position < count shape
    · obtain rfl : unravel position shape = coord := by simpa [coordAt?, bound] using found
      exact contains_unravel shape position bound
    · simp [coordAt?, bound] at found
  · rintro ⟨inside, rfl⟩
    exact coordAt?_offset shape coord inside

/-- The calls give the coordinates at the positions from the number of calls made before.

    Induction on the number of the call; one call leads to the walk with one call more. -/
theorem Called.given {calls : Nat} {o : Odometer} (called : Called shape calls o) (number : Nat) :
    o.given number = coordAt? shape (calls + number) := by
  induction number generalizing calls o with
  | zero => exact called.call.1
  | succ number inductionHypothesis =>
    have later := inductionHypothesis called.call.2
    rw [Nat.add_right_comm] at later
    exact later

/-- Counting from the start gives the coordinate with the number. -/
theorem given_start (shape : Shape) (number : Nat) :
    (Odometer.start shape).given number = coordAt? shape number := by
  rw [(called_start shape).given, Nat.zero_add]

/-- The list of coordinates is what the calls give, one after the other. -/
theorem getElem?_coordinates_eq_given (shape : Shape) (number : Nat) :
    (coordinates shape)[number]? = (Odometer.start shape).given number := by
  rw [given_start, coordinates_eq, List.getElem?_map, coordAt?]
  by_cases bound : number < count shape <;> simp [bound]

/-- A coordinate inside the shape is given by the call with its offset, and by no other. -/
theorem existsUnique_given (inside : contains shape coord = true) :
    ∃! number, (Odometer.start shape).given number = some coord := by
  refine ⟨offset coord (strides shape), ?_, ?_⟩
  · exact (given_start shape _).trans (coordAt?_offset shape coord inside)
  · intro number found
    rw [given_start, coordAt?_eq_some] at found
    exact found.2.symm

/-- The walks over the coordinates of a shape agree. As many calls of the odometer as the shape has
    elements give coordinates, and all later ones give nothing; the call of a number gives the
    coordinate that division finds there, which is below the shape on every axis and has the number
    as its offset. Each coordinate below the shape is given by exactly one call, and division of its
    offset gives it back. Without axes there is one coordinate, the empty one; with an empty axis
    there is none. The program finds the count and the strides exactly when the products that lead
    to them are words, and ends otherwise; without an empty axis it is enough that the count is. -/
theorem index_walks_agree (shape : Shape) :
    (∀ number, number < count shape →
      (Odometer.start shape).given number = some (unravel number shape) ∧
      List.Forall₂ (· < ·) (unravel number shape) shape ∧
      offset (unravel number shape) (strides shape) = number) ∧
    (∀ number, count shape ≤ number → (Odometer.start shape).given number = none) ∧
    (∀ number, (coordinates shape)[number]? = (Odometer.start shape).given number) ∧
    (∀ coord, List.Forall₂ (· < ·) coord shape →
      (∃! number, (Odometer.start shape).given number = some coord) ∧
      unravel (offset coord (strides shape)) shape = coord) ∧
    (shape = [] → ∀ number,
      (Odometer.start shape).given number = if number = 0 then some [] else none) ∧
    (0 ∈ shape → ∀ number, (Odometer.start shape).given number = none) ∧
    count? shape = (if shape.CountFits then some (count shape) else none) ∧
    strides? shape = (if shape.StridesFit then some (strides shape) else none) ∧
    (0 ∉ shape → count shape < Word.limit → shape.CountFits ∧ shape.StridesFit) := by
  have nothing : ∀ number, count shape ≤ number → (Odometer.start shape).given number = none := by
    intro number behind
    rw [given_start, coordAt?_of_le shape number behind]
  refine ⟨?_, nothing, getElem?_coordinates_eq_given shape, ?_, ?_, ?_, count?_eq shape,
    strides?_eq shape, ?_⟩
  · intro number bound
    obtain ⟨inside, back⟩ := contains_unravel shape number bound
    exact ⟨by rw [given_start, coordAt?, if_pos bound], contains_iff_forall₂.mp inside, back⟩
  · intro coord below
    have inside := contains_iff_forall₂.mpr below
    exact ⟨existsUnique_given inside, unravel_offset shape coord inside⟩
  · rintro rfl number
    rw [given_start, coordAt?]
    simp
  · intro empty number
    refine nothing number ?_
    rw [(count_eq_zero shape).mpr empty]
    exact Nat.zero_le number
  · intro full word
    exact ⟨countFits_of_full full word, stridesFit_of_full full word⟩

/-- The last axis runs out between the third and the fourth call, across an axis of length one. With
    an empty axis the odometer gives nothing, and the count of the axes before it may still leave
    the word. -/
theorem index_walks_agree_carry :
    (Odometer.start [2, 1, 3]).given 2 = some [0, 0, 2] ∧
      (Odometer.start [2, 1, 3]).given 3 = some [1, 0, 0] ∧
      (Odometer.start [2, 1, 3]).given 6 = none ∧
      (∃! number, (Odometer.start [2, 1, 3]).given number = some [1, 0, 2]) ∧
      (Odometer.start [Nat.pow 2 63, 4, 0]).given 0 = none ∧
      count? [Nat.pow 2 63, 4, 0] = none := by
  obtain ⟨gives, stops, -, once, -⟩ := index_walks_agree [2, 1, 3]
  obtain ⟨-, -, -, -, -, empty, counted, -⟩ := index_walks_agree [Nat.pow 2 63, 4, 0]
  refine ⟨(gives 2 (by decide)).1, (gives 3 (by decide)).1, stops 6 (by decide), ?_, ?_, ?_⟩
  · exact (once [1, 0, 2] (by simp)).1
  · exact empty (by decide) 0
  · rw [counted]
    decide

end Shape

end LoopKernels
