import LoopKernels.Lowering.Shuffle
import LoopKernels.Proofs.Kernel.Heading
import LoopKernels.Proofs.Outcome
import LoopKernels.Proofs.Tensor.Transposition

/-!
# What the listing of a shuffle tells

The listing of a shuffle shows the order in which it transposes, unless that order changes
nothing, and the shape it gives the result. So it shows everything but one thing: where the
order changes nothing, it does not show how many axes there are. Two shuffles with the same
listing run alike when they take arrays of the same rank. When they do not, the one of the
greater rank accepts an array that the other refuses, unless they give a shape whose count is
no word: then neither accepts an array.
-/

namespace LoopKernels

open Delimited (field_inj notMem_toDigits notMem_toString eq_of_toString_eq)

/-- A known shape has as many lengths as the type has axes. -/
theorem TensorType.length_staticShape {type : TensorType} {shape : List Nat}
    (static : type.staticShape? = some shape) : shape.length = type.rank := by
  have lengths : ∀ (xs : List (Option Nat)) (ys : List Nat), xs.mapM id = some ys →
      ys.length = xs.length := by
    intro xs
    induction xs with
    | nil => simp
    | cons x xs inductionHypothesis =>
      intro ys known
      rw [List.mapM_cons] at known
      simp only [Option.bind_eq_bind, Option.bind_eq_some_iff, Option.pure_def] at known
      obtain ⟨y, -, rest, knownRest, same⟩ := known
      obtain rfl := Option.some.inj same
      simp [inductionHypothesis rest knownRest]
  exact lengths type.shape shape static

/-! ## Valid shuffles -/

namespace Shuffle

/-- A list of axes is accepted when its axes exist and none is met twice. -/
theorem checkAxes_eq_ok (rank : Nat) (axes seen : List Nat)
    (checked : checkAxes rank seen axes = .ok ()) :
    (∀ axis ∈ axes, axis < rank ∧ axis ∉ seen) ∧ axes.Nodup := by
  induction axes generalizing seen with
  | nil => simp
  | cons axis axes inductionHypothesis =>
    simp only [checkAxes] at checked
    split at checked
    · simp at checked
    · split at checked
      · simp at checked
      · rename_i inside fresh
        obtain ⟨later, distinct⟩ := inductionHypothesis (axis :: seen) checked
        rw [List.forall_mem_cons, List.nodup_cons]
        refine ⟨⟨⟨by omega, fresh⟩, ?_⟩, ?_, distinct⟩
        · intro other listed
          have apart := (later other listed).2
          exact ⟨(later other listed).1, fun met => apart (List.mem_cons_of_mem _ met)⟩
        · intro again
          exact (later axis again).2 List.mem_cons_self

/-- The kept axes of a valid shuffle and the dropped ones are all axes. -/
theorem isPermutation_transposition (s : Shuffle) (valid : s.validate = .ok ()) :
    Tensor.IsPermutation s.transposition s.inputRank := by
  obtain ⟨kept, distinct⟩ := checkAxes_eq_ok s.inputRank s.kept [] valid
  refine Tensor.isPermutation_append distinct (List.nodup_range.filter _) ?_ ?_
  · intro axis first listed
    simp [dropped, Axis.others, first] at listed
  · intro axis
    by_cases first : axis ∈ s.kept
    · simp [first, (kept axis first).1]
    · simp [first, dropped, Axis.others, Axis.every]

end Shuffle

namespace Lowering

namespace ShufflePlan

variable {p q : ShufflePlan}

/-- What a plan keeps that was compiled: it permutes the axes of the declared rank, and a known
    shape has the rank of the output. -/
structure WellFormed (p : ShufflePlan) : Prop where
  permutes : Tensor.IsPermutation p.shuffle.transposition p.shuffle.inputRank
  staticRank : ∀ shape ∈ p.staticShape, shape.length = p.outputRank

/-! ## The shape in the listing -/

/-- The texts of the output lengths. -/
def entries (p : ShufflePlan) : List String :=
  match p.staticShape with
  | some shape => shape.map toString
  | none => lengthTexts 0 p.shuffle.order

/-- There is one length for each entry of the order. -/
theorem length_lengthTexts (next : Nat) (order : List ShuffleEntry) :
    (lengthTexts next order).length = order.length := by
  induction order generalizing next with
  | nil => rfl
  | cons entry order inductionHypothesis =>
    cases entry <;> simp [lengthTexts, inductionHypothesis]

/-- A well-formed plan writes one length for each axis of the output. -/
theorem WellFormed.length_entries (formed : p.WellFormed) : p.entries.length = p.outputRank := by
  unfold entries
  cases static : p.staticShape with
  | some shape => simpa using formed.staticRank shape static
  | none => exact length_lengthTexts 0 _

/-- The shape is a tuple of the entries, also where there are none. -/
theorem WellFormed.shapeText_eq (formed : p.WellFormed) :
    p.shapeText = "(" ++ Listing.commas p.entries ++ ")" := by
  unfold shapeText
  split
  · rename_i zero
    have empty : p.entries = [] := by
      rw [← List.length_eq_zero_iff, formed.length_entries]
      exact zero
    rw [empty]
    rfl
  · unfold entries
    cases p.staticShape <;> rfl

/-- The lengths are texts of digits and of what surrounds the number of an axis. -/
theorem notMem_lengthTexts {mark : Char} (notDigit : mark.isDigit = false)
    (outside : mark ∉ "x.shape[]".toList) (next : Nat) (order : List ShuffleEntry) :
    ∀ entry ∈ lengthTexts next order, entry ≠ "" ∧ mark ∉ entry.toList := by
  induction order generalizing next with
  | nil => simp [lengthTexts]
  | cons entry order inductionHypothesis =>
    cases entry with
    | fresh =>
      simp only [lengthTexts, List.forall_mem_cons]
      exact ⟨⟨by decide, notMem_toString notDigit 1⟩, inductionHypothesis next⟩
    | axis number =>
      have digits := notMem_toDigits notDigit next
      simp only [lengthTexts, List.forall_mem_cons]
      exact ⟨⟨by simp, by simp_all⟩, inductionHypothesis (next + 1)⟩

/-- No length is empty, and none holds a mark that is neither a digit nor part of a reference to a
    length. -/
theorem notMem_entries {mark : Char} (notDigit : mark.isDigit = false)
    (outside : mark ∉ "x.shape[]".toList) (p : ShufflePlan) :
    ∀ entry ∈ p.entries, entry ≠ "" ∧ mark ∉ entry.toList := by
  unfold entries
  cases p.staticShape with
  | none => exact notMem_lengthTexts notDigit outside 0 _
  | some shape =>
    simp only [List.forall_mem_map]
    intro length _
    exact ⟨by simp, notMem_toString notDigit length⟩

/-- The shown lengths tell which output axes are fresh. -/
theorem place_eq_of_lengthTexts (next : Nat) (order other : List ShuffleEntry)
    (same : lengthTexts next order = lengthTexts next other) :
    (order.filterMap Shuffle.keptAxis).length = (other.filterMap Shuffle.keptAxis).length ∧
      ∀ lengths, place order lengths = place other lengths := by
  induction order generalizing next other with
  | nil =>
    cases other with
    | nil => simp
    | cons entry other => cases entry <;> simp [lengthTexts] at same
  | cons entry order inductionHypothesis =>
    cases other with
    | nil => cases entry <;> simp [lengthTexts] at same
    | cons second other =>
      cases entry with
      | fresh =>
        cases second with
        | fresh =>
          obtain ⟨counts, places⟩ := inductionHypothesis next other (List.cons.inj same).2
          exact ⟨by simpa [Shuffle.keptAxis, List.filterMap_cons] using counts,
            fun lengths => by simp [place, places]⟩
        | axis number =>
          have texts := congrArg String.toList (List.cons.inj same).1
          simp at texts
      | axis number =>
        cases second with
        | fresh =>
          have texts := congrArg String.toList (List.cons.inj same).1
          simp at texts
        | axis otherNumber =>
          obtain ⟨counts, places⟩ := inductionHypothesis (next + 1) other (List.cons.inj same).2
          refine ⟨by simpa [Shuffle.keptAxis] using counts, ?_⟩
          intro lengths
          cases lengths <;> simp [place, places]

/-- Known lengths that show as the lengths of kept and fresh axes are all ones. -/
theorem place_eq_of_static (next : Nat) (order : List ShuffleEntry) (shape : Shape)
    (same : lengthTexts next order = shape.map toString) (lengths : List Nat) :
    place order lengths = shape := by
  induction order generalizing next shape lengths with
  | nil =>
    cases shape with
    | nil => rfl
    | cons length shape => simp [lengthTexts] at same
  | cons entry order inductionHypothesis =>
    cases shape with
    | nil => cases entry <;> simp [lengthTexts] at same
    | cons length shape =>
      cases entry with
      | fresh =>
        obtain ⟨first, rest⟩ := List.cons.inj same
        have one : (1 : Nat) = length := eq_of_toString_eq first
        rw [place, inductionHypothesis next shape rest, ← one]
      | axis number =>
        -- The text of a kept length begins with a letter, and a number does not.
        have letter : 'x' ∈ (toString length).toList := by
          rw [← (List.cons.inj same).1]
          simp
        exact absurd letter (notMem_toString rfl length)

/-- Plans that show the same lengths give the same shapes. -/
theorem outputShape_eq_of_entries (same : p.entries = q.entries) (transposed : Shape) :
    p.outputShape transposed = q.outputShape transposed := by
  unfold entries at same
  unfold outputShape
  cases static : p.staticShape with
  | some shape =>
    cases other : q.staticShape with
    | some otherShape =>
      simp only [static, other] at same
      exact (List.map_inj_right fun _ _ => eq_of_toString_eq).mp same
    | none =>
      simp only [static, other] at same
      exact (place_eq_of_static 0 _ shape same.symm _).symm
  | none =>
    cases other : q.staticShape with
    | some otherShape =>
      simp only [static, other] at same
      exact place_eq_of_static 0 _ otherShape same _
    | none =>
      simp only [static, other] at same
      obtain ⟨counts, places⟩ := place_eq_of_lengthTexts 0 _ _ same
      simp only [Shuffle.kept, counts, places]

/-! ## The listing -/

/-- The line that transposes. -/
def transposeLine (p : ShufflePlan) : String :=
  "x = transpose(x, (" ++ Listing.commas (p.shuffle.transposition.map toString) ++ "));"

/-- The line that gives the result its shape. -/
def returnLine (p : ShufflePlan) : String :=
  "return reshape(" ++ (if p.shuffle.inplace then "x" else "ascontiguousarray(x)") ++ ", " ++
    p.shapeText ++ ");"

/-- The listing of a shuffle: a transposition unless the order is kept, and the lengths of the
    result. -/
theorem listing_eq (p : ShufflePlan) :
    p.listing = [⟨0, "dimshuffle(x) \x7b"⟩] ++
      ((if p.isIdentity then [] else [⟨1, p.transposeLine⟩]) ++
        [⟨1, p.returnLine⟩, ⟨0, "\x7d"⟩]) := by
  unfold listing transposeLine returnLine Listing.function Listing.nest
  cases p.isIdentity <;> rfl

/-- The transposition is one line. -/
theorem oneLine_transposeLine (p : ShufflePlan) : '\n' ∉ p.transposeLine.toList := by
  unfold transposeLine
  simp [Listing.oneLine_numbers]

/-- The lengths of the result are one line. -/
theorem WellFormed.oneLine_returnLine (formed : p.WellFormed) : '\n' ∉ p.returnLine.toList := by
  have lengths : '\n' ∉ (Listing.commas p.entries).toList :=
    Listing.notMem_commas (by decide) _ fun entry listed =>
      (notMem_entries rfl (by decide) p entry listed).2
  have source : '\n' ∉ (if p.shuffle.inplace then "x" else "ascontiguousarray(x)").toList := by
    cases p.shuffle.inplace <;> decide
  unfold returnLine
  rw [formed.shapeText_eq]
  simp [lengths, source]

/-- The lengths are found in the last line. -/
theorem WellFormed.entries_eq_of_returnLine (formed : p.WellFormed) (formedQ : q.WellFormed)
    (same : p.returnLine = q.returnLine) : p.entries = q.entries := by
  have noComma : ∀ inplace : Bool,
      ',' ∉ (if inplace then "x" else "ascontiguousarray(x)").toList := by decide
  unfold returnLine at same
  rw [formed.shapeText_eq, formedQ.shapeText_eq] at same
  simp only [String.append_assoc, String.append_right_inj] at same
  obtain ⟨-, shapes⟩ := field_inj ',' rfl (noComma _) (noComma _) same
  have lengths := (String.append_left_inj _).mp ((String.append_right_inj _).mp shapes)
  exact Listing.commas_inj (notMem_entries rfl (by decide) p) (notMem_entries rfl (by decide) q)
    lengths

/-- The listing tells whether axes move, and then how, and it tells the lengths. -/
theorem WellFormed.listing_inj (formed : p.WellFormed) (formedQ : q.WellFormed)
    (same : p.listing.render = q.listing.render) :
    p.isIdentity = q.isIdentity ∧
      (p.isIdentity = false → p.shuffle.transposition = q.shuffle.transposition) ∧
      p.entries = q.entries := by
  rw [listing_eq, listing_eq] at same
  have body := Listing.render_append_inj same
  cases moves : p.isIdentity with
  | false =>
    cases movesQ : q.isIdentity with
    | false =>
      simp only [moves, movesQ] at body
      obtain ⟨orders, rest⟩ :=
        Listing.render_cons_inj p.oneLine_transposeLine q.oneLine_transposeLine body
      have lengths := (Listing.render_cons_inj formed.oneLine_returnLine
        formedQ.oneLine_returnLine rest).1
      refine ⟨rfl, fun _ => ?_, formed.entries_eq_of_returnLine formedQ lengths⟩
      unfold transposeLine at orders
      simp only [String.append_assoc, String.append_right_inj, String.append_left_inj] at orders
      exact Listing.eq_of_commas_numbers orders
    | true =>
      simp only [moves, movesQ] at body
      have lines := (Listing.render_cons_inj p.oneLine_transposeLine
        formedQ.oneLine_returnLine body).1
      unfold transposeLine returnLine at lines
      simp [← String.toList_inj] at lines
  | true =>
    cases movesQ : q.isIdentity with
    | false =>
      simp only [moves, movesQ] at body
      have lines := (Listing.render_cons_inj formed.oneLine_returnLine
        q.oneLine_transposeLine body).1
      unfold transposeLine returnLine at lines
      simp [← String.toList_inj] at lines
    | true =>
      simp only [moves, movesQ] at body
      have lengths := (Listing.render_cons_inj formed.oneLine_returnLine
        formedQ.oneLine_returnLine body).1
      exact ⟨rfl, by simp, formed.entries_eq_of_returnLine formedQ lengths⟩

/-! ## Running -/

/-- The output shape serves every rank, zero too. -/
theorem WellFormed.run_eq (formed : p.WellFormed) (t : Tensor) :
    p.run t =
      if t.rank ≠ p.shuffle.inputRank then
        .error (.inputRank "dimshuffle" p.shuffle.inputRank t.shape)
      else
        (if p.isIdentity then .ok t
          else KernelError.ofTensor (t.transpose p.shuffle.transposition)) >>= fun transposed =>
            KernelError.ofTensor (transposed.reshape (p.outputShape transposed.shape)) := by
  have scalar : p.outputRank = 0 → ∀ shape, p.outputShape shape = [] := by
    intro zero shape
    unfold outputShape
    cases static : p.staticShape with
    | some known =>
      exact List.length_eq_zero_iff.mp ((formed.staticRank known static).trans zero)
    | none =>
      have none : p.shuffle.order = [] := List.length_eq_zero_iff.mp zero
      simp only [none, place]
  have shaped : ∀ u : Tensor, (if p.outputRank = 0 then KernelError.ofTensor (u.reshape [])
      else KernelError.ofTensor (u.reshape (p.outputShape u.shape))) =
      KernelError.ofTensor (u.reshape (p.outputShape u.shape)) := by
    intro u
    split
    · rename_i zero
      rw [scalar zero]
    · rfl
  simp only [run, shaped, formed.permutes.1, Outcome.pure_ok, Outcome.bind_ok,
    Outcome.throw_error, Outcome.bind_error]
  cases p.isIdentity <;> rfl

/-- Shuffles with the same listing that take the same rank run alike. -/
theorem WellFormed.run_congr (formed : p.WellFormed) (formedQ : q.WellFormed)
    (same : p.listing.render = q.listing.render)
    (ranks : p.shuffle.inputRank = q.shuffle.inputRank) (t : Tensor) : p.run t = q.run t := by
  obtain ⟨moves, orders, lengths⟩ := formed.listing_inj formedQ same
  rw [formed.run_eq, formedQ.run_eq, ranks, moves]
  simp only [outputShape_eq_of_entries lengths]
  cases identity : q.isIdentity with
  | true => rfl
  | false => rw [orders (moves.trans identity)]

/-- A shape of ones stays one however its axes are placed. -/
theorem place_ones (order : List ShuffleEntry) (lengths : List Nat)
    (ones : ∀ length ∈ lengths, length = 1) :
    place order lengths = List.replicate order.length 1 := by
  induction order generalizing lengths with
  | nil => rfl
  | cons entry order inductionHypothesis =>
    cases entry with
    | fresh => simp [place, List.replicate_succ, inductionHypothesis lengths ones]
    | axis number =>
      cases lengths with
      | nil => simp [place, List.replicate_succ, inductionHypothesis [] ones]
      | cons length lengths =>
        rw [List.forall_mem_cons] at ones
        simp [place, List.replicate_succ, inductionHypothesis lengths ones.2, ones.1]

/-- A known output shape can be counted. -/
def Countable (p : ShufflePlan) : Prop := ∀ shape ∈ p.staticShape, shape.CountFits

/-- How many elements the output of a known shape has, and one where the shape is not known. -/
def wanted (p : ShufflePlan) : Nat := (p.staticShape.map Shape.count).getD 1

/-- The output shape can be counted for arrays of one element, and holds as many as wanted. -/
theorem Countable.outputShape (countable : p.Countable) (shape : Shape)
    (ones : p.wanted = 1 → ∀ length ∈ shape, length = 1) :
    (p.outputShape shape).CountFits ∧ Shape.count (p.outputShape shape) = p.wanted := by
  unfold ShufflePlan.outputShape
  cases static : p.staticShape with
  | some known => exact ⟨countable known static, by simp [wanted, static]⟩
  | none =>
    have one : p.wanted = 1 := by simp [wanted, static]
    have none : Shape.CountFits [] := by decide
    show (place _ _).CountFits ∧ (place _ _).count = _
    rw [place_ones _ _ fun length taken => ones one length (List.mem_of_mem_take taken), one]
    exact ⟨by simpa using (Shape.countFits_append_ones _).mpr none, Shape.count_ones _⟩

/-- An array with the wanted number of elements fits the output shape. -/
theorem Countable.exists_reshaped (countable : p.Countable) (u : Tensor) (valid : u.Valid)
    (count : Shape.count u.shape = p.wanted)
    (ones : p.wanted = 1 → ∀ length ∈ u.shape, length = 1) :
    ∃ v, KernelError.ofTensor (u.reshape (p.outputShape u.shape)) = .ok v := by
  obtain ⟨fits, same⟩ := countable.outputShape u.shape ones
  have size : Shape.count (p.outputShape u.shape) = u.size := by
    rw [same, Tensor.size, valid.2.1, count]
  refine ⟨{ u with shape := p.outputShape u.shape }, ?_⟩
  rw [Tensor.reshape, Shape.elementCount_eq, if_pos fits, Outcome.bind_ok,
    if_neg (not_not.mpr size)]
  rfl

/-- Where the output shape cannot be counted, no array is accepted. -/
theorem WellFormed.run_none (formed : p.WellFormed)
    (tooLarge : ∀ shape, ¬ (p.outputShape shape).CountFits) (t : Tensor) :
    (p.run t).toOption = none := by
  have refused : ∀ u : Tensor, (KernelError.ofTensor (u.reshape (p.outputShape u.shape))) =
      .error (.inTensor .overflow) := by
    intro u
    rw [Tensor.reshape, Shape.elementCount_eq, if_neg (tooLarge u.shape)]
    rfl
  rw [formed.run_eq]
  split
  · rfl
  · simp only [refused]
    split
    · rfl
    · cases KernelError.ofTensor (t.transpose p.shuffle.transposition) <;> rfl

/-- A shuffle of at least one axis accepts some array: one whose elements all lie along its first
    axis. -/
theorem WellFormed.exists_accepted (formed : p.WellFormed) (countable : p.Countable)
    (positive : 0 < p.shuffle.inputRank) :
    ∃ t : Tensor, t.Valid ∧ t.rank = p.shuffle.inputRank ∧ ∃ v, p.run t = .ok v := by
  let shape : Shape := p.wanted :: List.replicate (p.shuffle.inputRank - 1) 1
  have rank : shape.length = p.shuffle.inputRank := by
    simp only [shape, List.length_cons, List.length_replicate]
    omega
  have ones : p.wanted = 1 → ∀ length ∈ shape, length = 1 := by
    intro one
    simp [shape, one]
  have count : Shape.count shape = p.wanted := by simp [shape, Shape.count_ones]
  have word : p.wanted < Word.limit := by
    obtain ⟨fits, same⟩ := countable.outputShape [] (by simp)
    exact same ▸ fits.count_lt
  have fits : shape.CountFits :=
    (Shape.countFits_append_ones _).mpr (Shape.countFits_singleton.mpr word)
  have readable : shape.StridesFit := Shape.stridesFit_cons.mpr
    ⟨by rw [Shape.count_ones]; decide, Shape.stridesFit_ones _⟩
  obtain ⟨t, -, holds⟩ := Tensor.full_represents shape (.int 0) .i64 fits
  refine ⟨t, holds.valid, ?_, ?_⟩
  · rw [Tensor.rank, holds.shape_eq, rank]
  rw [formed.run_eq, Tensor.rank, holds.shape_eq, if_neg (not_not.mpr rank)]
  cases p.isIdentity with
  | true =>
    exact countable.exists_reshaped _ holds.valid (holds.shape_eq ▸ count) (holds.shape_eq ▸ ones)
  | false =>
    obtain ⟨turned, transposed, represents⟩ :=
      holds.transpose (rank ▸ formed.permutes) (.inr readable)
    simp only [transposed, Outcome.ofTensor_ok]
    -- A permutation keeps the number of elements, and ones stay ones.
    refine countable.exists_reshaped turned represents.valid ?_ ?_
    · rw [represents.shape_eq, formed.permutes.count_pick shape rank, count]
    · rw [represents.shape_eq]
      intro one length picked
      obtain ⟨axis, listed, rfl⟩ := List.mem_map.mp picked
      have bound : axis < shape.length := rank ▸ formed.permutes.2.1 axis listed
      exact ones one _ (by simp [bound])

/-! ## Agreement -/

/-- Shuffles of different ranks do not agree, whatever they list: what the one accepts, the other
    refuses for its rank. -/
theorem WellFormed.inputRank_eq_of_agreement (formed : p.WellFormed) (formedQ : q.WellFormed)
    (countable : p.Countable) (countableQ : q.Countable)
    (agree : ∀ t : Tensor, t.Valid → (p.run t).toOption = (q.run t).toOption) :
    p.shuffle.inputRank = q.shuffle.inputRank := by
  have refuses : ∀ {r : ShufflePlan} {t : Tensor}, r.WellFormed → t.rank ≠ r.shuffle.inputRank →
      (r.run t).toOption = none := by
    intro r t formed apart
    rw [formed.run_eq, if_pos apart]
    rfl
  by_contra apart
  -- One of two different ranks is positive, and a positive rank has an array to offer.
  obtain positive | positive : 0 < p.shuffle.inputRank ∨ 0 < q.shuffle.inputRank := by omega
  · obtain ⟨t, valid, rank, v, accepted⟩ := formed.exists_accepted countable positive
    have both := agree t valid
    rw [accepted, refuses formedQ (rank ▸ apart)] at both
    exact Option.some_ne_none v both
  · obtain ⟨t, valid, rank, v, accepted⟩ := formedQ.exists_accepted countableQ positive
    have both := agree t valid
    rw [accepted, refuses formed (rank ▸ Ne.symm apart)] at both
    exact Option.some_ne_none v both.symm

/-- The title of a shuffle is plain. -/
theorem plainTitle (p : ShufflePlan) : p.definition.PlainTitle :=
  ⟨show ' ' ∉ "dimshuffle".toList by decide, show '\n' ∉ "dimshuffle".toList by decide,
    show '\n' ∉ "loop.dimshuffle".toList by decide⟩

/-- A call of a shuffle runs it on its only argument. -/
theorem call_single (p : ShufflePlan) (o : Options) (t : Tensor) :
    (Kernel.mk p.definition none o).call [t] = (p.run t).map .tensor := by
  have called : (Kernel.mk p.definition none o).call [t] =
      (p.run t >>= fun shuffled => pure (.tensor shuffled)) := rfl
  rw [called]
  cases p.run t <;> rfl

/-- Shuffles with the same listing agree exactly when they take the same rank, or when the shape
    they give cannot be counted. -/
theorem WellFormed.agrees_iff (formed : p.WellFormed) (formedQ : q.WellFormed)
    (same : p.listing.render = q.listing.render) (o optionsQ : Options) :
    (Kernel.mk p.definition none o).Agrees ⟨q.definition, none, optionsQ⟩ ↔
      p.shuffle.inputRank = q.shuffle.inputRank ∨ ¬ p.Countable := by
  have shapes := outputShape_eq_of_entries (formed.listing_inj formedQ same).2.2
  have runs : (Kernel.mk p.definition none o).Agrees ⟨q.definition, none, optionsQ⟩ ↔
      ∀ t : Tensor, t.Valid → (p.run t).toOption = (q.run t).toOption := by
    have single : ∀ t : Tensor, ((p.run t).map Value.tensor).toOption =
        ((q.run t).map Value.tensor).toOption ↔ (p.run t).toOption = (q.run t).toOption := by
      intro t
      cases p.run t <;> cases q.run t <;> simp [Except.map, Except.toOption]
    constructor
    · intro agree t valid
      have both := agree [t] (by simpa using valid)
      rwa [call_single, call_single, single] at both
    · intro agree inputs valid
      rcases inputs with _ | ⟨t, _ | ⟨u, others⟩⟩
      · rfl
      · rw [call_single, call_single, single]
        exact agree t (valid t (by simp))
      · rfl
  rw [runs]
  constructor
  · intro agree
    by_cases countable : p.Countable
    · refine .inl (formed.inputRank_eq_of_agreement formedQ countable ?_ agree)
      intro shape known
      have given : q.outputShape [] = shape := by simp [outputShape, Option.mem_def.mp known]
      rw [← given, ← shapes]
      exact (countable.outputShape [] (by simp)).1
    · exact .inr countable
  · rintro (ranks | uncountable) t -
    · rw [formed.run_congr formedQ same ranks]
    · have tooLarge : ∀ shape, ¬ (p.outputShape shape).CountFits := by
        intro shape
        simp only [Countable, not_forall] at uncountable
        obtain ⟨known, static, tooLarge⟩ := uncountable
        have given : p.outputShape shape = known := by simp [outputShape, Option.mem_def.mp static]
        rwa [given]
      rw [formed.run_none tooLarge, formedQ.run_none fun shape => shapes shape ▸ tooLarge shape]

end ShufflePlan

/-- A node of a shuffle has one output, and is compiled to the plan of the shuffle and of what is
    known of the shape of the output. -/
theorem shuffle_compiled {node : Node} {s : Shuffle} {config : Config} {k : Kernel}
    (compiled : shuffle node s config = .ok k) :
    ∃ output, node.onlyOutput "DimShuffle" = .ok output ∧
      (ShufflePlan.mk s output.staticShape?).WellFormed ∧
      k = ⟨(ShufflePlan.mk s output.staticShape?).definition, none,
        { Options.ofConfig config with inlined := true }⟩ := by
  simp only [shuffle, Outcome.bind_eq_ok] at compiled
  obtain ⟨input, -, output, only, rest⟩ := compiled
  obtain ⟨-, rest⟩ := (Outcome.unless_eq_ok _ _ (fun _ => _) _).mp rest
  obtain ⟨valid, rest⟩ := (Outcome.check_eq_ok _ _ _).mp rest
  obtain ⟨outputRank, rest⟩ := (Outcome.unless_eq_ok _ _ (fun _ => _) _).mp rest
  rw [Kernel.compile] at rest
  refine ⟨output, only, ⟨?_, ?_⟩, (Except.ok.inj rest).symm⟩
  · exact s.isPermutation_transposition ((Outcome.ofShuffle_eq_ok _ _).mp valid)
  · intro shape static
    have lengths := TensorType.length_staticShape static
    rw [not_not.mp outputRank, lengths]

/-- A shuffle is compiled to a plan for it. -/
theorem shuffle_eq_ok {node : Node} {s : Shuffle} {config : Config} {k : Kernel}
    (compiled : shuffle node s config = .ok k) :
    ∃ p : ShufflePlan, p.WellFormed ∧ p.shuffle = s ∧
      k = ⟨p.definition, none, { Options.ofConfig config with inlined := true }⟩ := by
  obtain ⟨output, -, formed, rfl⟩ := shuffle_compiled compiled
  exact ⟨_, formed, rfl, rfl⟩

end Lowering

end LoopKernels
