import LoopKernels.Proofs.Kernel.Heading
import LoopKernels.Proofs.Outcome
import LoopKernels.Proofs.Scalar.Listed
import LoopKernels.Proofs.Reduction.Lanes
import LoopKernels.Proofs.Shape.Axes
import LoopKernels.Reduction.Axes

/-!
# What the listing of a reduction tells

The loops of a reduction along one axis are listed with the name of the reducer, the
lengths of the axes that stay, the seed as a literal, the element type and the number of
the axis. All of these are found in the text again, also when more text follows. So a
chain of steps is found from the concatenation of their listings: each step begins with a
comment, and the function that calls the steps does not.
-/

namespace LoopKernels

open Delimited (field_inj notMem_toDigits notMem_toString eq_of_toString_eq)

/-! ## Tuples -/

namespace Listing

/-- A character that separates nothing occurs as often as in all entries together. -/
theorem count_commas {mark : Char} (notSeparator : mark ∉ ", ".toList) (entries : List String) :
    (commas entries).toList.count mark = (entries.map (·.toList.count mark)).sum := by
  induction entries with
  | nil => simp [commas]
  | cons entry entries inductionHypothesis =>
    cases entries with
    | nil => simp [commas]
    | cons next entries =>
      have separator : ", ".toList.count mark = 0 := List.count_eq_zero.mpr notSeparator
      simp only [commas_cons_cons, String.toList_append, List.count_append, separator,
        inductionHypothesis]
      simp

/-- The number of entries of a tuple, each of which holds the character once. -/
theorem count_tuple {mark : Char} (notSeparator : mark ∉ "(, )".toList) (entries : List String)
    (once : ∀ entry ∈ entries, entry.toList.count mark = 1) :
    (tuple entries).toList.count mark = entries.length := by
  have total : (entries.map (·.toList.count mark)).sum = entries.length := by
    rw [List.map_eq_replicate_iff.mpr once]
    simp
  have opening : "(".toList.count mark = 0 := List.count_eq_zero.mpr (by simp_all)
  have closing : ")".toList.count mark = 0 := List.count_eq_zero.mpr (by simp_all)
  have closingOne : ",)".toList.count mark = 0 := List.count_eq_zero.mpr (by simp_all)
  unfold tuple
  split
  · exact List.count_eq_zero.mpr (by simp_all)
  · simp only [String.toList_append, List.count_append, opening, closingOne]
    simpa using total
  · rw [String.toList_append, String.toList_append, List.count_append, List.count_append, opening,
      closing, count_commas (by simp_all), total]
    omega

/-- A tuple holds nothing but its entries and what separates them. -/
theorem notMem_tuple {mark : Char} (notSeparator : mark ∉ "(, )".toList) (entries : List String)
    (outside : ∀ entry ∈ entries, mark ∉ entry.toList) : mark ∉ (tuple entries).toList := by
  unfold tuple
  split
  · simp_all
  · simp_all
  · have between := notMem_commas (by simp_all) entries outside
    simp_all

end Listing

/-! ## One axis -/

namespace AxisReducer

variable {r q : AxisReducer} {behind after : Listing}

/-- The texts of the lengths of the axes that stay. -/
def keptLengths (r : AxisReducer) : List String :=
  (Axis.others r.rank [r.axis]).map fun axis => "x.shape[" ++ toString axis ++ "]"

/-- The line that makes the result, its shape being given. -/
def fullLine (r : AxisReducer) (shape : String) : String :=
  "res = full(" ++ shape ++ ", " ++ r.seed.literal r.elem ++ ", " ++ r.elem.name ++ ");"

/-- The line that reads the length of the axis. -/
def axisLine (r : AxisReducer) : String := "axis_shape = x.shape[" ++ toString r.axis ++ "];"

/-- The beginning of the listing for several axes. -/
theorem listing_many (many : 1 < r.rank) (behind : Listing) :
    ∃ tail, r.listing ++ behind = ⟨0, r.name ++ "(x)" ++ " \x7b"⟩ ::
      ⟨1, "res_shape = " ++ Listing.tuple r.keptLengths ++ ";"⟩ ::
      ⟨1, r.fullLine "res_shape"⟩ :: ⟨1, r.axisLine⟩ :: tail := by
  rw [listing, if_pos many]
  exact ⟨_, rfl⟩

/-- The beginning of the listing for one axis. -/
theorem listing_one (one : ¬ 1 < r.rank) (behind : Listing) :
    ∃ tail, r.listing ++ behind = ⟨0, r.name ++ "(x)" ++ " \x7b"⟩ ::
      ⟨1, r.fullLine "(1,)"⟩ :: ⟨1, r.axisLine⟩ :: tail := by
  rw [listing, if_neg one]
  exact ⟨_, rfl⟩

/-- Each of the lines is one line. -/
theorem oneLine_kept (r : AxisReducer) :
    '\n' ∉ ("res_shape = " ++ Listing.tuple r.keptLengths ++ ";").toList := by
  have kept : '\n' ∉ (Listing.tuple r.keptLengths).toList := by
    refine Listing.notMem_tuple (by decide) _ ?_
    simp only [keptLengths, List.forall_mem_map]
    intro axis _
    simp [notMem_toDigits]
  simp [kept]

/-- The line that fills the result is one line. -/
theorem oneLine_full (r : AxisReducer) (shape : String) (oneLine : '\n' ∉ shape.toList) :
    '\n' ∉ (r.fullLine shape).toList := by
  have literal : '\n' ∉ (r.seed.literal r.elem).toList := Scalar.notMem_literal (by decide) _ _
  have name : '\n' ∉ r.elem.name.toList := r.elem.notMem_name rfl
  unfold fullLine
  simp [oneLine, literal, name]

/-- The line of the axis is one line. -/
theorem oneLine_axis (r : AxisReducer) : '\n' ∉ r.axisLine.toList := by
  unfold axisLine
  simp [notMem_toDigits]

/-- The line that makes the result tells the seed and the element type. -/
theorem fullLine_inj {shape : String} (same : r.fullLine shape = q.fullLine shape) :
    r.elem = q.elem ∧ r.seed.literal r.elem = q.seed.literal q.elem := by
  unfold fullLine at same
  simp only [String.append_assoc, String.append_right_inj] at same
  obtain ⟨literals, names⟩ := field_inj ',' rfl (Scalar.notMem_literal (by decide) _ _)
    (Scalar.notMem_literal (by decide) _ _) same
  exact ⟨ElemType.name_inj ((String.append_left_inj _).mp names), literals⟩

/-- The axis is found in its line. -/
theorem axisLine_inj (same : r.axisLine = q.axisLine) : r.axis = q.axis := by
  unfold axisLine at same
  simp only [String.append_assoc, String.append_right_inj] at same
  exact eq_of_toString_eq ((String.append_left_inj _).mp same)

/-- An axis is removed, so the lengths that stay are one fewer than the axes. -/
theorem count_keptLengths (bound : r.axis < r.rank) :
    (Listing.tuple r.keptLengths).toList.count '[' + 1 = r.rank := by
  rw [Listing.count_tuple (by decide)]
  · have others : Axis.others r.rank [r.axis] = (List.range r.rank).erase r.axis := by
      rw [List.nodup_range.erase_eq_filter]
      exact List.filter_congr (by simp [bne, Bool.beq_eq_decide_eq])
    have removed : (Axis.others r.rank [r.axis]).length + 1 = r.rank := by
      rw [others, List.length_erase_of_mem (by simpa using bound), List.length_range]
      omega
    simpa [keptLengths] using removed
  · simp only [keptLengths, List.forall_mem_map]
    intro axis _
    have digits := List.count_eq_zero.mpr (notMem_toString (show '['.isDigit = false from rfl) axis)
    simp only [String.toList_append, List.count_append, digits]
    decide

/-- The text of a reducer tells everything but the operator, also with more text behind it. -/
theorem listing_inj (oneLineR : '\n' ∉ r.name.toList) (oneLineQ : '\n' ∉ q.name.toList)
    (boundR : r.axis < r.rank) (boundQ : q.axis < q.rank)
    (same : (r.listing ++ behind).render = (q.listing ++ after).render) :
    r.name = q.name ∧ r.axis = q.axis ∧ r.rank = q.rank ∧ r.elem = q.elem ∧
      r.seed.literal r.elem = q.seed.literal q.elem := by
  have title : ∀ r : AxisReducer, '\n' ∉ r.name.toList →
      '\n' ∉ (r.name ++ "(x)" ++ " \x7b").toList := by
    intro r oneLine
    simp [oneLine]
  by_cases manyR : 1 < r.rank <;> by_cases manyQ : 1 < q.rank
  · obtain ⟨tail, spelled⟩ := listing_many manyR behind
    obtain ⟨other, spelledQ⟩ := listing_many manyQ after
    rw [spelled, spelledQ] at same
    obtain ⟨names, same⟩ := Listing.render_cons_inj (title r oneLineR) (title q oneLineQ) same
    obtain ⟨kept, same⟩ := Listing.render_cons_inj r.oneLine_kept q.oneLine_kept same
    obtain ⟨full, same⟩ := Listing.render_cons_inj (r.oneLine_full _ (by decide))
      (q.oneLine_full _ (by decide)) same
    obtain ⟨axes, -⟩ := Listing.render_cons_inj r.oneLine_axis q.oneLine_axis same
    have lengths : Listing.tuple r.keptLengths = Listing.tuple q.keptLengths := by simpa using kept
    refine ⟨by simpa using names, axisLine_inj axes, ?_, fullLine_inj full⟩
    rw [← count_keptLengths boundR, ← count_keptLengths boundQ, lengths]
  · obtain ⟨tail, spelled⟩ := listing_many manyR behind
    obtain ⟨other, spelledQ⟩ := listing_one manyQ after
    rw [spelled, spelledQ] at same
    obtain ⟨-, same⟩ := Listing.render_cons_inj (title r oneLineR) (title q oneLineQ) same
    have lines := (Listing.render_cons_inj r.oneLine_kept (q.oneLine_full _ (by decide)) same).1
    unfold fullLine at lines
    simp [← String.toList_inj] at lines
  · obtain ⟨tail, spelled⟩ := listing_one manyR behind
    obtain ⟨other, spelledQ⟩ := listing_many manyQ after
    rw [spelled, spelledQ] at same
    obtain ⟨-, same⟩ := Listing.render_cons_inj (title r oneLineR) (title q oneLineQ) same
    have lines := (Listing.render_cons_inj (r.oneLine_full _ (by decide)) q.oneLine_kept same).1
    unfold fullLine at lines
    simp [← String.toList_inj] at lines
  · obtain ⟨tail, spelled⟩ := listing_one manyR behind
    obtain ⟨other, spelledQ⟩ := listing_one manyQ after
    rw [spelled, spelledQ] at same
    obtain ⟨names, same⟩ := Listing.render_cons_inj (title r oneLineR) (title q oneLineQ) same
    obtain ⟨full, same⟩ := Listing.render_cons_inj (r.oneLine_full _ (by decide))
      (q.oneLine_full _ (by decide)) same
    obtain ⟨axes, -⟩ := Listing.render_cons_inj r.oneLine_axis q.oneLine_axis same
    exact ⟨by simpa using names, axisLine_inj axes, by omega, fullLine_inj full⟩

/-- What a reducer is built from: an operator, a seed, an element type and a form. -/
structure BuiltFrom (op : Operator) (seed : Scalar) (elem : ElemType) (keepDims : Bool)
    (r : AxisReducer) : Prop where
  operator_eq : r.operator = op.name
  update_eq : Update.ofOperator op elem = .ok r.update
  seed_eq : r.seed = seed.seed elem
  elem_eq : r.elem = elem
  keepDims_eq : r.keepDims = keepDims
  returnScalar_eq : r.returnScalar = false
  axis_lt : r.axis < r.rank

/-- A reducer is built from what it was asked for, under the name of its operator and its axis. -/
theorem builtFrom_of_build {op : Operator} {seed : Scalar} {axis : Int} {rank : Nat}
    {elem : ElemType} {keepDims : Bool}
    (built : build op seed axis rank elem keepDims false = .ok r) :
    r.BuiltFrom op seed elem keepDims ∧
      r.name = "careduce_" ++ op.name ++ ("_axis" ++ toString r.axis) ∧ r.rank = rank := by
  obtain ⟨resolved, update, inRange, updates, rfl⟩ := (build_eq_ok _ _ _ _ _ _ _ _).mp built
  have bound := ((Axis.resolve_eq_ok rank axis resolved).mp inRange).1
  exact ⟨⟨rfl, updates, rfl, rfl, rfl, rfl, bound⟩, String.append_assoc, rfl⟩

/-- Reducers built from one operator with the same listing are the same, provided that their
    seeds are told apart by their literals. -/
theorem BuiltFrom.eq_of_listing {op : Operator} {seed otherSeed : Scalar}
    {elem otherElem : ElemType} {keepDims : Bool} (fromR : r.BuiltFrom op seed elem keepDims)
    (fromQ : q.BuiltFrom op otherSeed otherElem keepDims)
    (oneLineR : '\n' ∉ r.name.toList) (oneLineQ : '\n' ∉ q.name.toList)
    (shown : (seed.seed elem).literal elem = (otherSeed.seed elem).literal elem →
      seed.seed elem = otherSeed.seed elem)
    (same : (r.listing ++ behind).render = (q.listing ++ after).render) : r = q := by
  obtain ⟨names, axes, ranks, elems, literals⟩ :=
    listing_inj oneLineR oneLineQ fromR.axis_lt fromQ.axis_lt same
  obtain rfl : elem = otherElem := by rw [← fromR.elem_eq, elems, fromQ.elem_eq]
  have updates : r.update = q.update :=
    Except.ok.inj (fromR.update_eq.symm.trans fromQ.update_eq)
  rw [fromR.seed_eq, fromQ.seed_eq, fromR.elem_eq, fromQ.elem_eq] at literals
  have seeds : r.seed = q.seed := by rw [fromR.seed_eq, fromQ.seed_eq, shown literals]
  have operators := fromR.operator_eq.trans fromQ.operator_eq.symm
  have keeps := fromR.keepDims_eq.trans fromQ.keepDims_eq.symm
  have returns := fromR.returnScalar_eq.trans fromQ.returnScalar_eq.symm
  cases r
  cases q
  rw [mk.injEq]
  exact ⟨names, operators, updates, seeds, axes, ranks, elems, keeps, returns⟩

/-- A name of one word without breaks gives a plain title. -/
theorem plainTitle (noBlank : ' ' ∉ r.name.toList) (oneLine : '\n' ∉ r.name.toList) :
    r.definition.PlainTitle :=
  ⟨noBlank, oneLine, show '\n' ∉ "loop.reduce_axis".toList by decide⟩

end AxisReducer

/-! ## Chains of steps -/

namespace AxesReducer

/-- The listings of the steps, one after the other. -/
def stepLines (steps : List Kernel) : Listing :=
  steps.flatMap fun step => step.listing ++ [Line.blank]

/-- The listing of a step begins with a comment. -/
theorem head?_step (step : Kernel) (behind : Listing) :
    (step.listing ++ behind).render.toList.head? = some '/' := by
  simp [Kernel.listing, Kernel.heading, Listing.render_cons, Line.render, Line.margin]

/-- Steps built from one operator are found in their listings, where no comment follows. -/
theorem stepLines_inj {op : Operator} {seed otherSeed : Scalar} {elem : ElemType}
    (shown : (seed.seed elem).literal elem = (otherSeed.seed elem).literal elem →
      seed.seed elem = otherSeed.seed elem)
    (config : Config) (reducers others : List AxisReducer)
    (each : ∀ r ∈ reducers, r.BuiltFrom op seed elem false ∧ r.definition.PlainTitle)
    (eachOther : ∀ r ∈ others, r.BuiltFrom op otherSeed elem false ∧ r.definition.PlainTitle)
    {behind after : Listing} (ends : behind.render.toList.head? ≠ some '/')
    (endsOther : after.render.toList.head? ≠ some '/')
    (same : (stepLines (reducers.map (·.stepKernel config)) ++ behind).render =
      (stepLines (others.map (·.stepKernel config)) ++ after).render) :
    reducers = others := by
  induction reducers generalizing others with
  | nil =>
    cases others with
    | nil => rfl
    | cons q others =>
      simp only [stepLines, List.map_nil, List.flatMap_nil, List.nil_append, List.map_cons,
        List.flatMap_cons, List.append_assoc] at same
      rw [same, head?_step] at ends
      simp at ends
  | cons r reducers inductionHypothesis =>
    cases others with
    | nil =>
      simp only [stepLines, List.map_nil, List.flatMap_nil, List.nil_append, List.map_cons,
        List.flatMap_cons, List.append_assoc] at same
      rw [← same, head?_step] at endsOther
      simp at endsOther
    | cons q others =>
      rw [List.forall_mem_cons] at each eachOther
      simp only [stepLines, List.map_cons, List.flatMap_cons, List.append_assoc] at same
      obtain ⟨-, -, -, -, listings⟩ := Kernel.heading_inj each.1.2 eachOther.1.2 same
      obtain rfl := each.1.1.eq_of_listing eachOther.1.1 each.1.2.nameOneLine
        eachOther.1.2.nameOneLine shown listings
      have rest := Listing.render_append_inj (Listing.render_append_inj same)
      rw [inductionHypothesis others each.2 eachOther.2 rest]

/-- Every member of a chain is built from what the chain is built from. -/
theorem builtFrom_of_chain {op : Operator} {seed : Scalar} {elem : ElemType} (axes : List Nat)
    (number rank : Nat) (reducers : List AxisReducer)
    (built : chain op seed elem number rank axes = .ok reducers) :
    ∀ r ∈ reducers, r.BuiltFrom op seed elem false ∧ r.definition.PlainTitle := by
  induction axes generalizing number rank reducers with
  | nil =>
    obtain rfl := Except.ok.inj built
    simp
  | cons axis axes inductionHypothesis =>
    simp only [chain, Outcome.bind_eq_ok] at built
    obtain ⟨first, head, others, tail, same⟩ := built
    obtain rfl := Except.ok.inj same
    obtain ⟨built, -, -⟩ := AxisReducer.builtFrom_of_build head
    rw [List.forall_mem_cons]
    refine ⟨⟨⟨built.operator_eq, built.update_eq, built.seed_eq, built.elem_eq, built.keepDims_eq,
      built.returnScalar_eq, built.axis_lt⟩, ?_⟩, inductionHypothesis _ _ _ tail⟩
    apply AxisReducer.plainTitle <;> simp [notMem_toDigits]

/-- Behind the steps stands the function that calls them, under its name. -/
theorem listing_eq (r : AxesReducer) (first : Char) (opens : r.name.toList.head? = some first)
    (notBlank : isBlankChar first = false) (oneLine : '\n' ∉ r.name.toList)
    (inputOneLine : '\n' ∉ r.inputName.toList) :
    ∃ tail, r.listing = stepLines r.steps ++ tail ∧ tail.render.toList.head? = some first := by
  obtain ⟨rest, spelled⟩ := List.head?_eq_some_iff.mp opens
  have called : Listing.block 0 (r.name ++ "(" ++ r.inputName ++ ") \x7b") =
      [⟨0, r.name ++ "(" ++ r.inputName ++ ") \x7b"⟩] := by
    refine Listing.block_oneLine 0 _ first ?_ notBlank ?_
    · simp [spelled]
    · simp [oneLine, inputOneLine]
  refine ⟨_, by simp only [listing, stepLines, List.append_assoc]; rfl, ?_⟩
  simp [called, Listing.render_cons, Line.render, Line.margin, spelled]

end AxesReducer

end LoopKernels
