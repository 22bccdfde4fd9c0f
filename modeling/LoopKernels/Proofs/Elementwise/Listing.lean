import LoopKernels.Proofs.Elementwise.Running
import LoopKernels.Proofs.Json.Record
import LoopKernels.Proofs.Kernel.Heading

/-!
# What the listing of an elementwise kernel tells

The listing ends with quoted constants. No constant holds a quote, so they are read back from
the end of the text, and with them the patterns of the inputs and the type of the output. The
operator is shown by its name and by an expression. The name tells a primitive operator. The
expression of a composite is not always enough: it leaves out a step that only casts, and a
step that no other step uses.

Two kernels with the same constants agree exactly when their operators give the same stored
values, unless the declared ranks differ among each other, and no call is accepted at all.
-/

namespace LoopKernels

open Delimited (last_field_inj notMem_intercalate notMem_toDigits)

namespace Elementwise

/-! ## Constants -/

/-- Quotes inside a constant are changed. -/
theorem notMem_listedConstant (constant : Json) : '"' ∉ (listedConstant constant).toList := by
  unfold listedConstant
  rw [String.toList_ofList, List.mem_map]
  rintro ⟨c, -, same⟩
  split at same
  · exact absurd same (by decide)
  · contradiction

/-- A constant without quotes is listed as it is. -/
theorem listedConstant_eq_compact {constant : Json} (plain : '"' ∉ constant.compact.toList) :
    listedConstant constant = constant.compact := by
  unfold listedConstant
  rw [List.map_congr_left, List.map_id, String.ofList_toList]
  intro c listed
  have other : c ≠ '"' := fun quote => plain (quote ▸ listed)
  simp [other]

/-- The line of a constant. -/
def constantLine (key value : String) : Line := ⟨2, key ++ " = \"" ++ value ++ "\","⟩

/-- The text of a constant line at the end of a listing. -/
theorem render_constant (front : Listing) (key value : String) :
    (front ++ [constantLine key value]).render =
      front.render ++ (Line.margin 2 ++ key) ++ (" = \"" ++ value) ++ "\",\n" := by
  rw [Listing.render_append, Listing.render_cons, constantLine, Line.render]
  simp only [String.append_assoc]
  rfl

/-- The last constant is read from the end. -/
theorem constantLine_inj {key v w : String} {front others : Listing} (plainV : '"' ∉ v.toList)
    (plainW : '"' ∉ w.toList)
    (same : (front ++ [constantLine key v]).render = (others ++ [constantLine key w]).render) :
    front.render = others.render ∧ v = w := by
  rw [render_constant, render_constant, String.append_left_inj] at same
  obtain ⟨fronts, values⟩ := last_field_inj '"' rfl plainV plainW same
  exact ⟨(String.append_left_inj _).mp fronts, values⟩

/-- Lines without quotes may be left out behind a constant. -/
theorem constantLine_append_inj {key v w : String} {front others behind after : Listing}
    (plainBehind : '"' ∉ behind.render.toList) (plainAfter : '"' ∉ after.render.toList)
    (same : (front ++ [constantLine key v] ++ behind).render =
      (others ++ [constantLine key w] ++ after).render) :
    (front ++ [constantLine key v]).render = (others ++ [constantLine key w]).render := by
  have closing : ∀ text rest : String,
      text ++ "\",\n" ++ rest = text ++ ("\"" ++ (",\n" ++ rest)) := by
    intro text rest
    have joined : "\",\n" ++ rest = "\"" ++ (",\n" ++ rest) := by
      rw [← String.append_assoc]
      rfl
    rw [String.append_assoc, joined]
  have plain : ∀ rest : String, '"' ∉ rest.toList → '"' ∉ (",\n" ++ rest).toList := by
    intro rest outside
    simp [outside]
  rw [Listing.render_append, Listing.render_append _ after, render_constant, render_constant,
    closing, closing] at same
  rw [render_constant, render_constant,
    (last_field_inj '"' rfl (plain _ plainBehind) (plain _ plainAfter) same).1]

/-- The patterns of the inputs are found in their constant. -/
theorem patterns_inj {patterns others : List (List Bool)}
    (same : listedConstant (BatchPlan.patternsJson patterns) =
      listedConstant (BatchPlan.patternsJson others)) : patterns = others := by
  have stores : ∀ patterns, Json.Stores Json.denoted BatchPlan.patternsJson
      (Json.list? (Json.list? Json.bool?)) patterns := by
    intro patterns
    exact Json.stores_list patterns fun pattern _ =>
      Json.stores_list pattern fun flag _ => Json.stores_bool _ flag
  have unchanged : ∀ patterns, listedConstant (BatchPlan.patternsJson patterns) =
      (BatchPlan.patternsJson patterns).compact := by
    intro patterns
    refine listedConstant_eq_compact ?_
    have plain : ∀ items : List Json, (∀ item ∈ items, '"' ∉ item.compact.toList) →
        '"' ∉ (Json.arr items).compact.toList := by
      intro items outside
      have between : '"' ∉ (String.intercalate "," (items.map Json.compact)).toList :=
        notMem_intercalate (by decide) _ (by simpa using outside)
      simp only [Json.compact, Json.compactItems_eq, String.toList_append, List.mem_append, not_or]
      exact ⟨⟨by decide, between⟩, by decide⟩
    refine plain _ (List.forall_mem_map.mpr fun pattern _ => ?_)
    refine plain _ (List.forall_mem_map.mpr fun flag _ => ?_)
    cases flag <;> decide
  rw [unchanged, unchanged] at same
  have read := (stores patterns).written.read?_compact
  rw [same, (stores others).written.read?_compact] at read
  have decoded := (stores patterns).decodes
  rw [← Option.some.inj read, (stores others).decodes] at decoded
  exact (Option.some.inj decoded).symm

/-- The type of the output is found in its constant. -/
theorem outputType_inj {e d : ElemType}
    (same : listedConstant (BatchPlan.typesJson [e]) = listedConstant (BatchPlan.typesJson [d])) :
    e = d := by
  have back : ∀ e : ElemType, ElemType.all.find? (fun d =>
      listedConstant (BatchPlan.typesJson [d]) == listedConstant (BatchPlan.typesJson [e])) =
        some e := by
    intro e
    cases e <;> decide
  have found := back e
  rw [same, back d] at found
  exact (Option.some.inj found).symm

/-! ## The listing -/

/-- The constants of a vectorized listing stand behind each other at its end. -/
theorem vectorizedListing_eq (name : String) (core : OutputStore) (plan : BatchPlan)
    (target : Target) :
    ∃ front : Listing, vectorizedListing name core plan target =
      front ++
        [constantLine "input_bc_patterns"
          (listedConstant (BatchPlan.patternsJson plan.inputPatterns))] ++
        [constantLine "output_bc_patterns"
          (listedConstant (BatchPlan.patternsJson plan.outputPatterns))] ++
        [constantLine "output_dtypes" (listedConstant (BatchPlan.typesJson plan.outputTypes))] ++
        [constantLine "inplace_pattern" (listedConstant (BatchPlan.reuseJson plan.reuse))] ++
        [constantLine "target" target.name] ++
        [⟨2, "inputs = (" ++ Listing.commas (operandNames core.kernel.inputCount) ++ "));"⟩,
          ⟨0, "\x7d"⟩] := by
  refine ⟨core.listing ++ [⟨0, name ++ "(" ++ Listing.commas
    (operandNames core.kernel.inputCount) ++ ") \x7b"⟩, ⟨1, "return vectorized("⟩,
    ⟨2, "store_core_outputs,"⟩], ?_⟩
  unfold vectorizedListing constantLine
  simp only [List.append_assoc, List.cons_append, List.nil_append]
  rfl

/-- The listing tells the patterns of the inputs and the type of the output. -/
theorem vectorizedListing_inj {name otherName : String} {core otherCore : OutputStore}
    {plan otherPlan : BatchPlan} {target otherTarget : Target} {e d : ElemType}
    (single : plan.outputTypes = [e]) (otherSingle : otherPlan.outputTypes = [d])
    (same : (vectorizedListing name core plan target).render =
      (vectorizedListing otherName otherCore otherPlan otherTarget).render) :
    plan.inputPatterns = otherPlan.inputPatterns ∧ e = d := by
  have plainTail : ∀ count, '"' ∉ (Listing.render
      [⟨2, "inputs = (" ++ Listing.commas (operandNames count) ++ "));"⟩, ⟨0, "\x7d"⟩]).toList := by
    intro count
    have names : '"' ∉ (Listing.commas (operandNames count)).toList :=
      Listing.notMem_commas (by decide) _ (by simp [operandNames, notMem_toDigits])
    simp [Listing.render, Line.render, Line.margin, names]
  have plainTarget : ∀ target : Target, '"' ∉ target.name.toList := by
    intro target
    cases target <;> decide
  obtain ⟨front, listed⟩ := vectorizedListing_eq name core plan target
  obtain ⟨others, otherListed⟩ := vectorizedListing_eq otherName otherCore otherPlan otherTarget
  rw [listed, otherListed] at same
  -- From the end: the target, the reuse of buffers, the types and both lists of patterns.
  have constants := constantLine_append_inj (plainTail _) (plainTail _) same
  obtain ⟨constants, -⟩ := constantLine_inj (plainTarget _) (plainTarget _) constants
  obtain ⟨constants, -⟩ :=
    constantLine_inj (notMem_listedConstant _) (notMem_listedConstant _) constants
  obtain ⟨constants, types⟩ :=
    constantLine_inj (notMem_listedConstant _) (notMem_listedConstant _) constants
  obtain ⟨constants, -⟩ :=
    constantLine_inj (notMem_listedConstant _) (notMem_listedConstant _) constants
  obtain ⟨-, patterns⟩ :=
    constantLine_inj (notMem_listedConstant _) (notMem_listedConstant _) constants
  rw [single, otherSingle] at types
  exact ⟨patterns_inj patterns, outputType_inj types⟩

end Elementwise

/-! ## Agreement -/

namespace Scalar

/-- The type that holds a scalar as it is. -/
def ownType : Scalar → ElemType
  | bool _ => .bool
  | int _ => .i64
  | uint _ => .u64
  | float _ => .f64

/-- A scalar is kept by its own type. -/
theorem cast_ownType (s : Scalar) : s.cast s.ownType = s := by
  cases s with
  | bool b => cases b <;> rfl
  | int n => rfl
  | uint n => rfl
  | float x => rfl

end Scalar

namespace Tensor

/-- An array shows the stored values it was made from, and nothing else of them. -/
theorem withScalars_inj {elem : ElemType} {shape : Shape} {values others : List Scalar} :
    withScalars elem shape values = withScalars elem shape others ↔
      values.map (·.cast elem) = others.map (·.cast elem) := by
  constructor
  · intro same
    rw [← toList_withScalars elem shape, same, toList_withScalars]
  · intro same
    simp only [withScalars, same]

end Tensor

namespace Vectorized

/-- Declared ranks that differ among each other. -/
def Ragged (patterns : List (List Bool)) : Prop :=
  ∃ first ∈ patterns, ∃ second ∈ patterns, first.length ≠ second.length

/-- No arrays fit ragged patterns. -/
theorem shape_ragged {patterns : List (List Bool)} (ragged : Ragged patterns)
    (inputs : List Tensor) (sameCount : inputs.length = patterns.length) (shape : Shape) :
    Vectorized.shape inputs patterns ≠ .ok shape := by
  obtain ⟨first, listed, second, otherListed, apart⟩ := ragged
  intro shaped
  have inhabited := inputs_ne_nil sameCount (List.ne_nil_of_mem listed)
  have aligned := (shape_eq_ok inputs patterns shape inhabited sameCount).mp shaped
  have seconds : (inputs.zip patterns).map Prod.snd = patterns :=
    List.map_snd_zip (Nat.le_of_eq sameCount.symm)
  have rank : ∀ pattern ∈ patterns, pattern.length = shape.length := by
    intro pattern member
    rw [← seconds] at member
    obtain ⟨entry, paired, rfl⟩ := List.mem_map.mp member
    exact (aligned.ranks entry paired).2
  exact apart ((rank first listed).trans (rank second otherListed).symm)

/-- Arrays of one element fit patterns of one rank. -/
theorem shape_ones {patterns : List (List Bool)} (rank : Nat)
    (even : ∀ pattern ∈ patterns, pattern.length = rank) (empty : patterns = [] → rank = 0)
    (inputs : List Tensor) (sameCount : inputs.length = patterns.length)
    (ones : ∀ t ∈ inputs, t.shape = List.replicate rank 1) :
    Vectorized.shape inputs patterns = .ok (List.replicate rank 1) := by
  by_cases inhabited : patterns = []
  · obtain rfl : rank = 0 := empty inhabited
    subst inhabited
    obtain rfl : inputs = [] := List.length_eq_zero_iff.mp sameCount
    rfl
  have someInput := inputs_ne_nil sameCount inhabited
  rw [shape_eq_ok inputs patterns _ someInput sameCount]
  have members : ∀ entry ∈ inputs.zip patterns,
      entry.1.shape = List.replicate rank 1 ∧ entry.2.length = rank := by
    intro entry paired
    obtain ⟨input, pattern⟩ := List.of_mem_zip paired
    exact ⟨ones _ input, even _ pattern⟩
  constructor
  · intro entry paired
    simp [Tensor.rank, members entry paired]
  · intro entry paired axis bound _
    rw [List.length_replicate] at bound
    simp [PatternedInput.length, members entry paired, bound]
  · intro entry paired axis _ _
    rw [PatternedInput.length, (members entry paired).1]
  · intro axis bound _
    rw [List.length_replicate] at bound
    simp [bound]

/-- Any operands are the elements of arrays of one element each that fit the patterns, as long as
    the patterns are of one rank. Each array has the type that holds its operand as it is. -/
theorem exists_inputs_holding {patterns : List (List Bool)} (even : ¬ Ragged patterns)
    (args : List Scalar) (count : args.length = patterns.length) :
    ∃ (inputs : List Tensor) (shape : Shape) (coord : Coord), (∀ t ∈ inputs, t.Valid) ∧
      inputs.length = patterns.length ∧ Vectorized.shape inputs patterns = .ok shape ∧
      BatchFits inputs shape ∧ Shape.coordinates shape = [coord] ∧
      (inputs.map fun t => t.element (Shape.shrink t.shape coord)) = args := by
  let rank := (patterns.headD []).length
  have ranks : ∀ pattern ∈ patterns, pattern.length = rank := by
    intro pattern listed
    by_contra apart
    refine even ⟨pattern, listed, patterns.headD [], ?_, apart⟩
    obtain ⟨first, rest, cons⟩ := List.exists_cons_of_ne_nil (List.ne_nil_of_mem listed)
    simp [cons]
  let ones : Shape := List.replicate rank 1
  have counted : ones.CountFits := by
    simpa [ones] using (Shape.countFits_append_ones rank).mpr (show Shape.CountFits [] by decide)
  let inputs := args.map fun s =>
    Tensor.withScalars s.ownType ones ((Shape.coordinates ones).map fun _ => s)
  have holds := fun s : Scalar =>
    Tensor.withScalars_represents s.ownType ones (fun _ => s) counted.count_lt
  have sameCount : inputs.length = patterns.length := by simpa [inputs] using count
  have shaped : Vectorized.shape inputs patterns = .ok ones := by
    apply shape_ones rank ranks _ inputs sameCount
    · exact List.forall_mem_map.mpr fun s _ => (holds s).shape_eq
    · intro empty
      simp [rank, empty]
  -- The output has one coordinate, and there every array is read at its only element.
  obtain ⟨coord, only⟩ : ∃ coord, Shape.coordinates ones = [coord] := by
    rw [← List.length_eq_one_iff, Shape.coordinates_length, Shape.count_ones]
  refine ⟨inputs, ones, coord, List.forall_mem_map.mpr fun s _ => (holds s).valid, sameCount,
    shaped, ⟨?_, counted⟩, only, ?_⟩
  · exact List.forall_mem_map.mpr fun s _ => Shape.stridesFit_ones rank
  have stretches := stretches_of_shape inputs patterns ones sameCount shaped
  have inside : Shape.contains ones coord = true := by
    rw [← Shape.mem_coordinates, only, List.mem_singleton]
  rw [List.map_map]
  conv => rhs; rw [← List.map_id args]
  apply List.map_congr_left
  intro s listed
  obtain ⟨steps, stretched⟩ :=
    Option.isSome_iff_exists.mp (stretches _ (List.mem_map_of_mem listed))
  have within := (Shape.stretch?_offset _ ones steps coord stretched inside).1
  rw [(holds s).shape_eq] at within
  rw [Function.comp_apply, (holds s).shape_eq, (holds s).element_eq _ within, id_eq,
    Scalar.cast_ownType]

/-- What a batched evaluation gives, if anything. -/
theorem toOption_eval (core : OutputStore) (plan : BatchPlan) (elem : ElemType)
    (single : plan.outputTypes = [elem]) (inputs : List Tensor) (valid : ∀ t ∈ inputs, t.Valid) :
    (eval core plan inputs).toOption =
      if inputs.length = plan.inputPatterns.length then
        (Vectorized.shape inputs plan.inputPatterns).toOption.bind fun shape =>
          if BatchFits inputs shape then
            ((Shape.coordinates shape).mapM (pointwise core.kernel inputs)).toOption.map
              (Tensor.withScalars elem shape)
          else none
      else none := by
  by_cases sameCount : inputs.length = plan.inputPatterns.length
  · rw [if_pos sameCount]
    cases shaped : Vectorized.shape inputs plan.inputPatterns with
    | error reason => simp [eval, evalBy, sameCount, single, shaped, Except.toOption]
    | ok shape =>
      have first : plan.outputTypes.head? = some elem := congrArg List.head? single
      by_cases fits : BatchFits inputs shape
      · rw [eval_eq_map core plan elem first inputs valid sameCount shape shaped fits]
        simp only [Except.toOption, Option.bind_some, if_pos fits]
        cases (Shape.coordinates shape).mapM (pointwise core.kernel inputs) <;> rfl
      · rw [eval, evalBy_overflow .serial core plan elem first inputs sameCount shape shaped fits]
        simp [Except.toOption, fits]
  · simp [eval, evalBy, sameCount, Except.toOption]

end Vectorized

/-- The value that an operator leaves in an array of the given type, if it gives one. -/
def Operator.stored? (op : Operator) (args : List Scalar) (e : ElemType) : Option Scalar :=
  (op.eval args e).toOption.map (·.cast e)

/-- The stored value at a coordinate is that of the operator, whatever error stands in for a
    missing one. -/
theorem stored?_pointwise (kernel : ScalarKernel) (inputs : List Tensor) (coord : Coord) :
    (pointwise kernel inputs coord).toOption.map (·.cast kernel.output) =
      kernel.operator.stored? (inputs.map fun t => t.element (Shape.shrink t.shape coord))
        kernel.output := by
  unfold pointwise ScalarKernel.eval Operator.stored?
  cases kernel.operator.eval _ kernel.output <;> rfl

namespace Elementwise

/-- Two evaluations with the same patterns into the same type. -/
structure SameConstants (core otherCore : OutputStore) (plan otherPlan : BatchPlan)
    (e : ElemType) : Prop where
  patterns : otherPlan.inputPatterns = plan.inputPatterns
  single : plan.outputTypes = [e]
  otherSingle : otherPlan.outputTypes = [e]
  output : core.kernel.output = e
  otherOutput : otherCore.kernel.output = e

variable {core otherCore : OutputStore} {plan otherPlan : BatchPlan} {e : ElemType}

/-- Operators that give the same stored values give the same arrays. -/
theorem SameConstants.eval_congr (same : SameConstants core otherCore plan otherPlan e)
    (alike : ∀ args : List Scalar, args.length = plan.inputPatterns.length →
      core.kernel.operator.stored? args e = otherCore.kernel.operator.stored? args e)
    (inputs : List Tensor) (valid : ∀ t ∈ inputs, t.Valid) :
    (Vectorized.eval core plan inputs).toOption =
      (Vectorized.eval otherCore otherPlan inputs).toOption := by
  rw [Vectorized.toOption_eval core plan e same.single inputs valid,
    Vectorized.toOption_eval otherCore otherPlan e same.otherSingle inputs valid, same.patterns]
  split
  · rename_i sameCount
    congr 1
    funext shape
    refine if_ctx_congr Iff.rfl (fun _ => ?_) fun _ => rfl
    have values := Outcome.toOption_mapM_congr (pointwise core.kernel inputs)
      (pointwise otherCore.kernel inputs) (·.cast e) (Shape.coordinates shape) (by
        intro coord _
        have here := stored?_pointwise core.kernel inputs coord
        have there := stored?_pointwise otherCore.kernel inputs coord
        rw [same.output] at here
        rw [same.otherOutput] at there
        rw [here, there]
        exact alike _ (by simpa using sameCount))
    cases first : (Shape.coordinates shape).mapM (pointwise core.kernel inputs) <;>
      cases second : (Shape.coordinates shape).mapM (pointwise otherCore.kernel inputs) <;>
        simp_all [Except.toOption, Tensor.withScalars_inj]
  · rfl

/-- Operators whose kernels give the same arrays give the same stored values: any operands are the
    elements of arrays of one element. -/
theorem SameConstants.stored?_eq_of_eval (same : SameConstants core otherCore plan otherPlan e)
    (even : ¬ Vectorized.Ragged plan.inputPatterns)
    (agree : ∀ inputs : List Tensor, (∀ t ∈ inputs, t.Valid) →
      (Vectorized.eval core plan inputs).toOption =
        (Vectorized.eval otherCore otherPlan inputs).toOption)
    (args : List Scalar) (count : args.length = plan.inputPatterns.length) :
    core.kernel.operator.stored? args e = otherCore.kernel.operator.stored? args e := by
  obtain ⟨inputs, shape, coord, valid, sameCount, shaped, fits, only, elements⟩ :=
    Vectorized.exists_inputs_holding even args count
  have both := agree inputs valid
  rw [Vectorized.toOption_eval core plan e same.single inputs valid,
    Vectorized.toOption_eval otherCore otherPlan e same.otherSingle inputs valid, same.patterns,
    if_pos sameCount, if_pos sameCount, shaped] at both
  have here := stored?_pointwise core.kernel inputs coord
  have there := stored?_pointwise otherCore.kernel inputs coord
  rw [same.output, elements] at here
  rw [same.otherOutput, elements] at there
  rw [← here, ← there]
  simp only [Except.toOption, Option.bind_some, if_pos fits, only, List.mapM_cons,
    List.mapM_nil] at both
  cases first : pointwise core.kernel inputs coord <;>
    cases second : pointwise otherCore.kernel inputs coord <;>
      simp_all [Except.toOption, Tensor.withScalars_inj]

/-- A call of the batched kernel gives the array that the evaluation gives. -/
theorem vectorized_call (name : String) (core : OutputStore) (plan : BatchPlan) (target : Target)
    (o : Options) (inputs : List Tensor) :
    ((Kernel.mk (vectorizedDefinition name core plan target) none o).call inputs).toOption =
      (Vectorized.eval core plan inputs).toOption.map .tensor := by
  have called : (Kernel.mk (vectorizedDefinition name core plan target) none o).call inputs =
      (Vectorized.eval core plan inputs >>= fun result => pure (.tensor result)) := rfl
  rw [called]
  cases Vectorized.eval core plan inputs <;> rfl

/-- Kernels with the same constants agree exactly when their operators store the same values, or
    when the declared ranks allow no call. -/
theorem SameConstants.agrees_iff (same : SameConstants core otherCore plan otherPlan e)
    (name otherName : String) (target otherTarget : Target) (o otherOptions : Options) :
    (Kernel.mk (vectorizedDefinition name core plan target) none o).Agrees
        ⟨vectorizedDefinition otherName otherCore otherPlan otherTarget, none, otherOptions⟩ ↔
      Vectorized.Ragged plan.inputPatterns ∨
        ∀ args : List Scalar, args.length = plan.inputPatterns.length →
          core.kernel.operator.stored? args e = otherCore.kernel.operator.stored? args e := by
  have evals : (Kernel.mk (vectorizedDefinition name core plan target) none o).Agrees
        ⟨vectorizedDefinition otherName otherCore otherPlan otherTarget, none, otherOptions⟩ ↔
      ∀ inputs : List Tensor, (∀ t ∈ inputs, t.Valid) →
        (Vectorized.eval core plan inputs).toOption =
          (Vectorized.eval otherCore otherPlan inputs).toOption := by
    refine forall₂_congr fun inputs _ => ?_
    rw [vectorized_call, vectorized_call]
    exact (Option.map_injective fun _ _ => Value.tensor.inj).eq_iff
  rw [evals]
  constructor
  · intro agree
    rw [or_iff_not_imp_left]
    exact fun even => same.stored?_eq_of_eval even agree
  · rintro (ragged | alike) inputs valid
    · have refused : ∀ (core : OutputStore) (p : BatchPlan), p.outputTypes = [e] →
          p.inputPatterns = plan.inputPatterns →
          (Vectorized.eval core p inputs).toOption = none := by
        intro core p single patterns
        rw [Vectorized.toOption_eval core p e single inputs valid, patterns]
        split
        · rename_i sameCount
          cases shaped : Vectorized.shape inputs plan.inputPatterns with
          | error reason => rfl
          | ok shape => exact absurd shaped (Vectorized.shape_ragged ragged inputs sameCount shape)
        · rfl
      rw [refused core plan same.single rfl,
        refused otherCore otherPlan same.otherSingle same.patterns]
    · exact same.eval_congr alike inputs valid

end Elementwise

end LoopKernels
