import LoopKernels.Lowering.Compile
import LoopKernels.Proofs.Kernel.Signed
import LoopKernels.Proofs.Reduction.Listing

/-!
# The listing of a reduction determines the reduction

Two reductions or sums with the same source are the same kernel, whatever nodes and
configurations they were compiled from. A reduction of one axis shows operator and axis in
its name, a reduction of several axes shows one listing per step, and a sum that needs no
loops shows the types it goes through. The type given for the accumulator shows only in the
literal of the seed, which is enough.
-/

namespace LoopKernels

open Delimited (field_inj last_field_inj notMem_toDigits notMem_toString eq_of_toString_eq)

/-- Reductions and sums. -/
def Op.isReduction : Op → Bool
  | .reduce .. | .sum .. => true
  | _ => false

/-- Compiling does not fail. -/
theorem Kernel.compile_eq (definition : Definition) (signature : Option Signature)
    (options : Options) :
    compile definition signature options = .ok ⟨definition, signature, options⟩ := by
  cases signature with
  | none => rfl
  | some s => exact compile_signed definition s options

namespace Node

/-- A node has no input besides the only one. -/
theorem inputs_of_onlyInput {node : Node} {op : String} {input : TensorType}
    (only : node.onlyInput op = .ok input) : node.inputs = [input] := by
  unfold onlyInput at only
  split at only
  next single listed => rw [listed, Except.ok.inj only]
  next => simp at only

/-- A node has no output besides the only one. -/
theorem outputs_of_onlyOutput {node : Node} {op : String} {output : TensorType}
    (only : node.onlyOutput op = .ok output) : node.outputs = [output] := by
  unfold onlyOutput at only
  split at only
  next single listed => rw [listed, Except.ok.inj only]
  next => simp at only

end Node

namespace Primitive

/-- Primitive operators have different names. -/
theorem name_inj {p q : Primitive} (same : p.name = q.name) : p = q := by
  have found := ofName?_name p
  rw [same, ofName?_name] at found
  exact (Option.some.inj found).symm

/-- Names of operators are words of small letters and underscores. -/
theorem notMem_name {mark : Char} (notWord : mark.isLower = false) (notJoin : mark ≠ '_')
    (p : Primitive) : mark ∉ p.name.toList := by
  have word : ∀ p : Primitive, p.name.toList.all (fun c => c.isLower || c == '_') = true := by
    intro p
    cases p <;> decide
  intro listed
  simpa [notWord, notJoin] using List.all_eq_true.mp (word p) mark listed

/-- An operator that accumulates into a float type is not bitwise. -/
theorem allowed_of_update {p : Primitive} {e : ElemType} {u : Update}
    (updates : Update.ofOperator (.prim p) e = .ok u) : (p.isBitwise && e.isFloat) = false := by
  cases kind : e.isFloat with
  | false => simp
  | true =>
    cases p <;>
      simp_all [Update.ofOperator, Update.ofOperator?, Update.ofPrimitive?, Update.isBitwise,
        isBitwise]

end Primitive

namespace Lowering

/-- The kernels to which reductions and sums are compiled. -/
inductive ReductionForm : Kernel → Prop
  /-- A reduction of one axis. -/
  | axis (p : Primitive) (identity : Float) (accumulator elem : ElemType) (r : AxisReducer)
      (signature : Signature) (config : Config) (hasNeutral : p.neutral = some identity)
      (built : r.BuiltFrom (.prim p) ((Scalar.float identity).seed accumulator) elem false)
      (named : r.name = "careduce_" ++ p.name ++ ("_axis" ++ toString r.axis)) :
      ReductionForm ⟨r.definition, some signature, Options.reduction config⟩
  /-- A chain of reductions of single axes into the type of the result. -/
  | axes (p : Primitive) (identity : Float) (accumulator : ElemType) (axes : List Nat)
      (reducers : List AxisReducer) (signature : Signature) (config : Config)
      (hasNeutral : p.neutral = some identity)
      (allowed : (p.isBitwise && signature.output.elem.isFloat) = false)
      (each : ∀ r ∈ reducers, r.BuiltFrom (.prim p) ((Scalar.float identity).seed accumulator)
        signature.output.elem false ∧ r.definition.PlainTitle) :
      ReductionForm ⟨(AxesReducer.mk ("careduce_" ++ p.name) "x" axes
        (reducers.map (·.stepKernel config)) false).definition, some signature,
        Options.reduction config⟩
  /-- A sum that needs no loops over single axes. -/
  | shortcut (s : SumShortcut) (options : Options) : ReductionForm ⟨s.definition, none, options⟩

/-- A reducer is one of the first two forms. -/
theorem reductionForm_of_reducer (p : Primitive) (identity : Float)
    (hasNeutral : p.neutral = some identity) (accumulator : ElemType) (axes : List Int)
    (rank : Nat) (signature : Signature) (config : Config) (reducer : Reducer)
    (built : Reducer.build (.prim p) ((Scalar.float identity).seed accumulator) axes rank
      signature.output.elem "x" false config = .ok reducer) :
    ReductionForm ⟨reducer.definition, some signature, Options.reduction config⟩ := by
  unfold Reducer.build at built
  split at built
  · obtain ⟨r, single, same⟩ := (Outcome.bind_eq_ok _ _ _).mp built
    obtain rfl := Except.ok.inj same
    obtain ⟨builtFrom, named, -⟩ := AxisReducer.builtFrom_of_build single
    exact .axis p identity accumulator _ r signature config hasNeutral builtFrom named
  · obtain ⟨r, several, same⟩ := (Outcome.bind_eq_ok _ _ _).mp built
    obtain rfl := Except.ok.inj same
    simp only [AxesReducer.build, Outcome.bind_eq_ok] at several
    obtain ⟨resolved, -, update, updates, reducers, chained, same⟩ := several
    obtain rfl := Except.ok.inj same
    exact .axes p identity accumulator _ reducers signature config hasNeutral
      (Primitive.allowed_of_update updates) (AxesReducer.builtFrom_of_chain _ _ _ _ chained)

/-- Every reduction is compiled to one of the forms. -/
theorem reductionForm_of_reduce (node : Node) (op : Operator) (axes : Option (List Int))
    (accumulator : Option ElemType) (config : Config) (kernel : Kernel)
    (compiled : reduce node op axes accumulator config = .ok kernel) : ReductionForm kernel := by
  simp only [reduce, Outcome.bind_eq_ok] at compiled
  obtain ⟨input, onlyInput, output, onlyOutput, rest⟩ := compiled
  split at rest
  next => simp at rest
  next identity neutral =>
    obtain ⟨reducer, built, rest⟩ := (Outcome.bind_eq_ok _ _ _).mp rest
    simp only [Kernel.compileReduction, if_true] at rest
    obtain ⟨signature, signed, compiled⟩ := (Outcome.bind_eq_ok _ _ _).mp rest
    rw [Kernel.compile_eq] at compiled
    obtain rfl := Except.ok.inj compiled
    have outputElem : signature.output.elem = output.elem := by
      rw [Signature.ofNode, Node.outputs_of_onlyOutput onlyOutput] at signed
      obtain rfl := Except.ok.inj signed
      rfl
    cases op with
    | composite inputs steps last => simp [Operator.neutral] at neutral
    | prim p =>
      rw [← outputElem] at built
      exact reductionForm_of_reducer p identity neutral _ _ _ signature config reducer built

/-- Every sum is compiled to one of the forms. -/
theorem reductionForm_of_sum (node : Node) (axes : Option (List Int))
    (accumulator : Option ElemType) (config : Config) (kernel : Kernel)
    (compiled : sum node axes accumulator config = .ok kernel) : ReductionForm kernel := by
  simp only [sum, Outcome.bind_eq_ok] at compiled
  obtain ⟨input, -, output, -, reduced, -, rest⟩ := compiled
  split at rest
  · rw [Kernel.compile_eq] at rest
    obtain rfl := Except.ok.inj rest
    exact .shortcut _ _
  · split at rest
    · rw [Kernel.compile_eq] at rest
      obtain rfl := Except.ok.inj rest
      exact .shortcut _ _
    · exact reductionForm_of_reduce _ _ _ _ _ _ rest

namespace SumShortcut

/-- The statement of a sum without loops tells the types it goes through. -/
theorem statement_inj {s t : SumShortcut} (names : s.name = t.name)
    (same : s.statement = t.statement) : s = t := by
  cases s with
  | total sum accumulator output =>
    cases t with
    | copy other => simp [name] at names
    | total otherSum otherAccumulator otherOutput =>
      unfold statement at same
      simp only [String.append_assoc, String.append_right_inj] at same
      obtain ⟨sums, same⟩ :=
        field_inj ')' rfl (sum.notMem_name rfl) (otherSum.notMem_name rfl) same
      obtain ⟨accumulators, same⟩ :=
        field_inj ')' rfl (accumulator.notMem_name rfl) (otherAccumulator.notMem_name rfl) same
      rw [ElemType.name_inj sums, ElemType.name_inj accumulators,
        ElemType.name_inj ((String.append_left_inj _).mp same)]
  | copy output =>
    cases t with
    | total sum accumulator other => simp [name] at names
    | copy other =>
      unfold statement at same
      simp only [String.append_assoc, String.append_right_inj] at same
      rw [ElemType.name_inj ((String.append_left_inj _).mp same)]

/-- The statement of a shortcut is one line. -/
theorem oneLine_statement (s : SumShortcut) : '\n' ∉ s.statement.toList := by
  have name : ∀ e : ElemType, '\n' ∉ e.name.toList := fun e => e.notMem_name rfl
  unfold statement
  cases s <;> simp [name]

/-- The title of a shortcut is plain. -/
theorem plainTitle (s : SumShortcut) : s.definition.PlainTitle := by
  have named : ' ' ∉ s.name.toList ∧ '\n' ∉ s.name.toList := by
    cases s <;> simp [name]
  exact ⟨named.1, named.2, show '\n' ∉ "loop.sum".toList by decide⟩

end SumShortcut

/-- The name of a reducer is one word. -/
theorem oneWord_name (p : Primitive) (n : Nat) :
    ' ' ∉ ("careduce_" ++ p.name ++ ("_axis" ++ toString n)).toList ∧
      '\n' ∉ ("careduce_" ++ p.name ++ ("_axis" ++ toString n)).toList := by
  simp [Primitive.notMem_name, notMem_toDigits]

namespace ReductionForm

variable {k l : Kernel}

/-- The title of every reduction is plain. -/
theorem plainTitle (form : ReductionForm k) : k.definition.PlainTitle := by
  cases form with
  | axis p identity accumulator elem r signature config hasNeutral built named =>
    apply AxisReducer.plainTitle
    · rw [named]
      exact (oneWord_name p r.axis).1
    · rw [named]
      exact (oneWord_name p r.axis).2
  | axes p identity accumulator axes reducers signature config hasNeutral allowed each =>
    exact ⟨show ' ' ∉ ("careduce_" ++ p.name).toList by simp [Primitive.notMem_name],
      show '\n' ∉ ("careduce_" ++ p.name).toList by simp [Primitive.notMem_name],
      show '\n' ∉ "loop.reduce_axes".toList by decide⟩
  | shortcut s options => exact s.plainTitle

end ReductionForm

/-- A reduction of one axis is found from its name and its loops. -/
theorem axis_eq_of_listing {p q : Primitive} {identity other : Float}
    (hasNeutral : p.neutral = some identity) (otherNeutral : q.neutral = some other)
    {accumulator otherAccumulator elem otherElem : ElemType} {r s : AxisReducer}
    (built : r.BuiltFrom (.prim p) ((Scalar.float identity).seed accumulator) elem false)
    (otherBuilt : s.BuiltFrom (.prim q) ((Scalar.float other).seed otherAccumulator) otherElem
      false)
    (named : r.name = "careduce_" ++ p.name ++ ("_axis" ++ toString r.axis))
    (otherNamed : s.name = "careduce_" ++ q.name ++ ("_axis" ++ toString s.axis))
    (names : r.name = s.name) (listings : r.listing.render = s.listing.render) : r = s := by
  have oneLine : '\n' ∉ r.name.toList := named ▸ (oneWord_name p r.axis).2
  rw [named, otherNamed] at names
  obtain ⟨operators, -⟩ :=
    last_field_inj 's' rfl (notMem_toString rfl _) (notMem_toString rfl _) names
  obtain rfl := Primitive.name_inj ((String.append_right_inj _).mp operators)
  obtain rfl := Option.some.inj (hasNeutral.symm.trans otherNeutral)
  have bodies : (r.listing ++ []).render = (s.listing ++ []).render := by simpa using listings
  exact built.eq_of_listing otherBuilt oneLine (otherNamed ▸ (oneWord_name p s.axis).2)
    (p.seed_inj identity hasNeutral elem (Primitive.allowed_of_update built.update_eq) _ _) bodies

/-- The steps of a reduction of several axes are found from its name and its loops. -/
theorem axes_eq_of_listing {p q : Primitive} {identity other : Float}
    (hasNeutral : p.neutral = some identity) (otherNeutral : q.neutral = some other)
    {accumulator otherAccumulator elem : ElemType} (allowed : (p.isBitwise && elem.isFloat) = false)
    {reducers others : List AxisReducer}
    (each : ∀ r ∈ reducers, r.BuiltFrom (.prim p) ((Scalar.float identity).seed accumulator) elem
      false ∧ r.definition.PlainTitle)
    (otherEach : ∀ r ∈ others, r.BuiltFrom (.prim q) ((Scalar.float other).seed otherAccumulator)
      elem false ∧ r.definition.PlainTitle)
    (config : Config) (axes otherAxes : List Nat) (names : p.name = q.name)
    (listings : (AxesReducer.mk ("careduce_" ++ p.name) "x" axes
        (reducers.map (·.stepKernel config)) false).listing.render =
      (AxesReducer.mk ("careduce_" ++ q.name) "x" otherAxes
        (others.map (·.stepKernel config)) false).listing.render) :
    reducers = others := by
  obtain rfl := Primitive.name_inj names
  obtain rfl := Option.some.inj (hasNeutral.symm.trans otherNeutral)
  have oneLine : '\n' ∉ ("careduce_" ++ p.name).toList := by simp [Primitive.notMem_name]
  obtain ⟨tail, spelled, opens⟩ := (AxesReducer.mk ("careduce_" ++ p.name) "x" axes
    (reducers.map (·.stepKernel config)) false).listing_eq 'c' (by simp) (by decide) oneLine
      (show '\n' ∉ "x".toList by decide)
  obtain ⟨otherTail, otherSpelled, otherOpens⟩ := (AxesReducer.mk ("careduce_" ++ p.name) "x"
    otherAxes (others.map (·.stepKernel config)) false).listing_eq 'c' (by simp) (by decide) oneLine
      (show '\n' ∉ "x".toList by decide)
  rw [spelled, otherSpelled] at listings
  exact AxesReducer.stepLines_inj
    (p.seed_inj identity hasNeutral elem allowed accumulator otherAccumulator) config reducers
    others each otherEach (by simp [opens]) (by simp [otherOpens]) listings

/-- A sum without loops is found from its name and its statement. -/
theorem SumShortcut.eq_of_listing {s t : SumShortcut} (names : s.name = t.name)
    (listings : s.definition.listing.render = t.definition.listing.render) : s = t := by
  have lines : ∀ s : SumShortcut, s.definition.listing =
      [⟨0, s.name ++ "(array)" ++ " \x7b"⟩] ++ [⟨1, s.statement⟩, ⟨0, "\x7d"⟩] := fun s => rfl
  rw [lines, lines, names] at listings
  have body := Listing.render_append_inj listings
  exact statement_inj names (Listing.render_cons_inj s.oneLine_statement t.oneLine_statement body).1

/-- A reduction is found in its source. -/
theorem ReductionForm.eq_of_source {k l : Kernel} (formK : ReductionForm k)
    (formL : ReductionForm l) (same : k.source = l.source) : k = l := by
  obtain ⟨names, labels, signatures, options, listings⟩ :=
    Kernel.source_inj formK.plainTitle formL.plainTitle same
  cases formK with
  | axis p identity accumulator elem r signature config hasNeutral built named =>
    cases formL with
    | axis q otherIdentity otherAccumulator otherElem s otherSignature other otherNeutral otherBuilt
        otherNamed =>
      obtain rfl := axis_eq_of_listing hasNeutral otherNeutral built otherBuilt named otherNamed
        names listings
      exact congrArg₂ (Kernel.mk r.definition) signatures options
    | axes => exact absurd labels (show "loop.reduce_axis" ≠ "loop.reduce_axes" by decide)
    | shortcut => exact absurd labels (show "loop.reduce_axis" ≠ "loop.sum" by decide)
  | axes p identity accumulator axes reducers signature config hasNeutral allowed each =>
    cases formL with
    | axis => exact absurd labels (show "loop.reduce_axes" ≠ "loop.reduce_axis" by decide)
    | axes q otherIdentity otherAccumulator otherAxes others otherSignature other otherNeutral
        otherAllowed otherEach =>
      obtain rfl : signature = otherSignature := Option.some.inj signatures
      have operators : p.name = q.name := (String.append_right_inj "careduce_").mp names
      -- Steps are compiled with the fast arithmetic of the configuration and nothing else of it.
      have fastmath : config.fastmath = other.fastmath := congrArg Options.fastmath options
      have steps : ∀ r : AxisReducer, r.stepKernel other = r.stepKernel config := by
        intro r
        simp [AxisReducer.stepKernel, Options.step, Options.ofConfig, fastmath]
      simp only [steps] at listings ⊢
      obtain rfl := axes_eq_of_listing hasNeutral otherNeutral allowed each otherEach config axes
        otherAxes operators listings
      obtain rfl := Primitive.name_inj operators
      exact congrArg _ options
    | shortcut => exact absurd labels (show "loop.reduce_axes" ≠ "loop.sum" by decide)
  | shortcut s options =>
    cases formL with
    | axis => exact absurd labels (show "loop.sum" ≠ "loop.reduce_axis" by decide)
    | axes => exact absurd labels (show "loop.sum" ≠ "loop.reduce_axes" by decide)
    | shortcut t otherOptions =>
      obtain rfl := SumShortcut.eq_of_listing names listings
      exact congrArg _ options

/-- Whether two nodes are compiled to the same source can be computed. -/
theorem exists_same_source (first second : Node) (config other : Config)
    (computed : (do
      let k ← first.compile config
      let l ← second.compile other
      pure (decide (k.source = l.source)) : Except KernelError Bool) = .ok true) :
    ∃ k l, first.compile config = .ok k ∧ second.compile other = .ok l ∧ k.source = l.source := by
  obtain ⟨k, compiled, rest⟩ := (Outcome.bind_eq_ok _ _ _).mp computed
  obtain ⟨l, otherCompiled, compared⟩ := (Outcome.bind_eq_ok _ _ _).mp rest
  exact ⟨k, l, compiled, otherCompiled, of_decide_eq_true (Except.ok.inj compared)⟩

/-- Two reductions or sums with the same source give the same results and the same errors, on
    any arguments. -/
theorem reduction_source_determines_calls (first second : Node)
    (firstReduces : first.op.isReduction = true) (secondReduces : second.op.isReduction = true)
    (config other : Config) (k l : Kernel) (firstCompiled : first.compile config = .ok k)
    (secondCompiled : second.compile other = .ok l) (same : k.source = l.source)
    (inputs : List Tensor) : k.call inputs = l.call inputs := by
  have form : ∀ {node : Node} {config : Config} {kernel : Kernel}, node.op.isReduction = true →
      node.compile config = .ok kernel → ReductionForm kernel := by
    intro node config kernel reduces compiled
    unfold Node.compile at compiled
    split at compiled <;> rename_i kind
    case h_2 => exact reductionForm_of_reduce _ _ _ _ _ _ compiled
    case h_3 => exact reductionForm_of_sum _ _ _ _ _ compiled
    all_goals simp [kind, Op.isReduction] at reduces
  rw [(form firstReduces firstCompiled).eq_of_source (form secondReduces secondCompiled) same]

/-- The sum of the rows of a matrix, its last axis named from behind. -/
def rowSums : Node := ⟨.sum (some [-1]) none, [.dynamic .i32 2], [.dynamic .i64 1]⟩

/-- The same as a reduction, with a type for the accumulator. -/
def rowReduction : Node :=
  ⟨.reduce (.prim .add) (some [1]) (some .u8), [.dynamic .i32 2], [.dynamic .i64 1]⟩

/-- Two nodes under two configurations with one source. -/
theorem reduction_source_determines_calls_rows :
    ∃ k l, rowSums.compile { boundscheck := true } = .ok k ∧ rowReduction.compile {} = .ok l ∧
      k.source = l.source ∧ ∀ inputs, k.call inputs = l.call inputs := by
  obtain ⟨k, l, first, second, same⟩ :=
    exists_same_source rowSums rowReduction { boundscheck := true } {} (by decide +kernel)
  exact ⟨k, l, first, second, same, reduction_source_determines_calls rowSums rowReduction rfl rfl
    _ _ k l first second same⟩

end Lowering

end LoopKernels
