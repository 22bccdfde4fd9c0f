import LoopKernels.Proofs.Lowering.ReductionListing
import LoopKernels.Proofs.Lowering.SoftmaxLanes

/-!
# What the listings of softmaxes and argmaxes tell

A softmax along an axis lists the reducers it is built from, which tell the axis and the
element types, and its signature tells the types again. A softmax of the whole array lists
no reducers, but it still has its signature. So a softmax is found in its source, and so is
an argmax, whose listing shows the order of the axes.

The gradient of a softmax has no signature. Along an axis its reducer tells what is needed.
Of the whole array it lists neither a reducer nor a type, and gradients into different
types have the same source.
-/

namespace LoopKernels.Lowering

/-! ## Aggregates -/

namespace Aggregate

variable {p : Primitive} {neutral : Float} {rank otherRank : Nat} {elem otherElem : ElemType}
  {config other : Config} {a b : Aggregate} {behind after : Listing}

/-- An aggregate along an axis is a reducer compiled as a step. -/
theorem build_axis {number : Nat}
    (built : build (.prim p) neutral (some number) rank elem config = .ok a) :
    ∃ r : AxisReducer, a = .axis (r.stepKernel config) ∧
      r.BuiltFrom (.prim p) (.float neutral) elem true ∧ r.definition.PlainTitle := by
  simp only [build, Outcome.bind_eq_ok] at built
  obtain ⟨r, reducer, same⟩ := built
  obtain rfl := Except.ok.inj same
  obtain ⟨builtFrom, named, -⟩ := AxisReducer.builtFrom_of_build reducer
  have words : ' ' ∉ r.name.toList ∧ '\n' ∉ r.name.toList := by
    rw [named]
    exact oneWord_name p r.axis
  exact ⟨r, rfl, builtFrom, AxisReducer.plainTitle words.1 words.2⟩

/-- The listing of an aggregate along an axis begins with a comment. -/
theorem head?_axis {number : Nat} (behind : Listing)
    (built : build (.prim p) neutral (some number) rank elem config = .ok a) :
    (a.listing ++ behind).render.toList.head? = some '/' := by
  obtain ⟨r, rfl, -⟩ := build_axis built
  rw [listing, List.append_assoc]
  exact AxesReducer.head?_step _ _

/-- An aggregate of the whole array lists nothing. -/
theorem listing_whole (built : build (.prim p) neutral none rank elem config = .ok a) :
    a.listing = [] := by
  simp only [build, Outcome.bind_eq_ok] at built
  obtain ⟨update, -, same⟩ := built
  obtain rfl := Except.ok.inj same
  rfl

/-- Where no comment follows an aggregate of the whole array, the text tells whether there is an
    axis. -/
theorem isSome_eq_of_listing {axis otherAxis : Option Nat}
    (built : build (.prim p) neutral axis rank elem config = .ok a)
    (otherBuilt : build (.prim p) neutral otherAxis otherRank otherElem other = .ok b)
    (ends : axis = none → behind.render.toList.head? ≠ some '/')
    (otherEnds : otherAxis = none → after.render.toList.head? ≠ some '/')
    (same : (a.listing ++ behind).render = (b.listing ++ after).render) :
    axis.isSome = otherAxis.isSome := by
  cases axis with
  | none =>
    cases otherAxis with
    | none => rfl
    | some otherNumber =>
      rw [listing_whole built, List.nil_append] at same
      exact absurd (same ▸ head?_axis after otherBuilt) (ends rfl)
  | some number =>
    cases otherAxis with
    | none =>
      rw [listing_whole otherBuilt, List.nil_append] at same
      exact absurd (same ▸ head?_axis behind built) (otherEnds rfl)
    | some otherNumber => rfl

/-- What is aggregated of the whole array depends on its type only. -/
theorem whole_eq (built : build (.prim p) neutral none rank elem config = .ok a)
    (otherBuilt : build (.prim p) neutral none otherRank otherElem other = .ok b)
    (types : elem = otherElem) : a = b := by
  subst types
  have alike : build (.prim p) neutral none rank elem config =
      build (.prim p) neutral none otherRank elem other := rfl
  exact Except.ok.inj (built.symm.trans (alike.trans otherBuilt))

/-- An aggregate along an axis is found in its listing, and so is its type. -/
theorem axis_eq_of_listing {number otherNumber : Nat}
    (built : build (.prim p) neutral (some number) rank elem config = .ok a)
    (otherBuilt : build (.prim p) neutral (some otherNumber) otherRank otherElem other = .ok b)
    (same : (a.listing ++ behind).render = (b.listing ++ after).render) :
    a = b ∧ elem = otherElem ∧ behind.render = after.render := by
  obtain ⟨r, rfl, builtFrom, plain⟩ := build_axis built
  obtain ⟨q, rfl, otherFrom, otherPlain⟩ := build_axis otherBuilt
  have listings : ((r.stepKernel config).listing ++ ([Line.blank] ++ behind)).render =
      ((q.stepKernel other).listing ++ ([Line.blank] ++ after)).render := by
    simpa only [listing, List.append_assoc] using same
  -- The heading of the step tells its options, and the loops tell the reducer.
  obtain ⟨-, -, -, options, bodies⟩ := Kernel.heading_inj plain otherPlain listings
  obtain rfl := builtFrom.eq_of_listing otherFrom plain.nameOneLine otherPlain.nameOneLine
    (fun _ => rfl) bodies
  have steps : r.stepKernel config = r.stepKernel other :=
    congrArg (Kernel.mk r.definition none) options
  rw [steps] at listings ⊢
  exact ⟨rfl, builtFrom.elem_eq.symm.trans otherFrom.elem_eq,
    Listing.render_append_inj (Listing.render_append_inj listings)⟩

end Aggregate

/-! ## Softmaxes -/

/-- A resolved axis is given when an axis was. -/
theorem isSome_of_resolveAxis {axis : Option Int} {rank : Nat} {resolved : Option Nat}
    (denotes : resolveAxis axis rank = .ok resolved) : resolved.isSome = axis.isSome := by
  cases axis with
  | none =>
    obtain rfl := Except.ok.inj denotes
    rfl
  | some number =>
    simp only [resolveAxis, Outcome.bind_eq_ok] at denotes
    obtain ⟨found, -, same⟩ := denotes
    obtain rfl := Except.ok.inj same
    rfl

/-- A softmax is compiled from two aggregates along the same axis, with the signature of its
    node. -/
theorem softmax_eq_ok {node : Node} {isLog : Bool} {axis : Option Int} {config : Config}
    {k : Kernel} (compiled : softmax node isLog axis config = .ok k) :
    ∃ (input output : TensorType) (resolved : Option Nat) (greatest total : Aggregate),
      Aggregate.build (.prim .maximum) (-1 / 0) resolved input.rank input.elem config =
        .ok greatest ∧
      Aggregate.build (.prim .add) 0 resolved input.rank output.elem config = .ok total ∧
      k = ⟨(Softmax.mk isLog greatest total input.elem output.elem).definition,
        some ⟨[ArgType.ofType input], ArgType.ofType output, false⟩, Options.reduction config⟩ := by
  simp only [softmax, Outcome.bind_eq_ok] at compiled
  obtain ⟨input, onlyInput, output, onlyOutput, resolved, -, greatest, greatestBuilt, total,
    totalBuilt, rest⟩ := compiled
  refine ⟨input, output, resolved, greatest, total, greatestBuilt, totalBuilt, ?_⟩
  simp only [Kernel.compileReduction, Signature.ofNode, Node.inputs_of_onlyInput onlyInput,
    Node.outputs_of_onlyOutput onlyOutput, if_true, Outcome.bind_ok, Kernel.compile_eq] at rest
  exact (Except.ok.inj rest).symm

/-- The title of a softmax is plain. -/
theorem Softmax.plainTitle (s : Softmax) : s.definition.PlainTitle := by
  have titles : ∀ isLog : Bool, ' ' ∉ (if isLog then "log_softmax" else "softmax").toList ∧
      '\n' ∉ (if isLog then "log_softmax" else "softmax").toList ∧
      '\n' ∉ ("loop." ++ if isLog then "log_softmax" else "softmax").toList := by decide
  exact ⟨(titles s.isLog).1, (titles s.isLog).2.1, (titles s.isLog).2.2⟩

/-- The function of a softmax is not a comment. -/
theorem Softmax.head?_function (s : Softmax) :
    (Listing.function (s.name ++ "(x)") s.body).render.toList.head? ≠ some '/' := by
  unfold Softmax.name
  cases s.isLog with
  | true =>
    rw [Listing.head?_function _ _ (show _ = some 'l' from rfl)]
    decide
  | false =>
    rw [Listing.head?_function _ _ (show _ = some 's' from rfl)]
    decide

/-- Softmaxes of the same types with the same listing are built from the same aggregates. -/
theorem Softmax.aggregates_eq {s t : Softmax} {axis otherAxis : Option Nat} {rank otherRank : Nat}
    {config other : Config}
    (greatest : Aggregate.build (.prim .maximum) (-1 / 0) axis rank s.input config = .ok s.greatest)
    (total : Aggregate.build (.prim .add) 0 axis rank s.output config = .ok s.total)
    (otherGreatest : Aggregate.build (.prim .maximum) (-1 / 0) otherAxis otherRank t.input other =
      .ok t.greatest)
    (otherTotal : Aggregate.build (.prim .add) 0 otherAxis otherRank t.output other = .ok t.total)
    (inputs : s.input = t.input) (outputs : s.output = t.output)
    (listings : s.definition.listing.render = t.definition.listing.render) :
    s.greatest = t.greatest ∧ s.total = t.total := by
  have shown : (s.greatest.listing ++ (s.total.listing ++
      Listing.function (s.name ++ "(x)") s.body)).render =
      (t.greatest.listing ++ (t.total.listing ++
        Listing.function (t.name ++ "(x)") t.body)).render := by
    simpa only [definition, List.append_assoc] using listings
  have axes : axis.isSome = otherAxis.isSome := by
    refine Aggregate.isSome_eq_of_listing greatest otherGreatest ?_ ?_ shown
    · rintro rfl
      rw [Aggregate.listing_whole total, List.nil_append]
      exact s.head?_function
    · rintro rfl
      rw [Aggregate.listing_whole otherTotal, List.nil_append]
      exact t.head?_function
  cases axis with
  | none =>
    obtain rfl : otherAxis = none := by simpa using axes.symm
    exact ⟨Aggregate.whole_eq greatest otherGreatest inputs,
      Aggregate.whole_eq total otherTotal outputs⟩
  | some number =>
    obtain ⟨otherNumber, rfl⟩ := Option.isSome_iff_exists.mp axes.symm
    obtain ⟨sameGreatest, -, rest⟩ := Aggregate.axis_eq_of_listing greatest otherGreatest shown
    exact ⟨sameGreatest, (Aggregate.axis_eq_of_listing total otherTotal rest).1⟩

/-- A softmax is found in its source. -/
theorem softmax_eq_of_source {node other : Node} {isLog : Bool} {axis otherAxis : Option Int}
    {config otherConfig : Config} {k l : Kernel}
    (compiled : softmax node isLog axis config = .ok k)
    (otherCompiled : softmax other isLog otherAxis otherConfig = .ok l)
    (same : k.source = l.source) : k = l := by
  obtain ⟨input, output, resolved, greatest, total, greatestBuilt, totalBuilt, rfl⟩ :=
    softmax_eq_ok compiled
  obtain ⟨otherInput, otherOutput, otherResolved, otherGreatest, otherTotal, otherGreatestBuilt,
    otherTotalBuilt, rfl⟩ := softmax_eq_ok otherCompiled
  obtain ⟨-, -, signatures, options, listings⟩ :=
    Kernel.source_inj (Softmax.plainTitle _) (Softmax.plainTitle _) same
  obtain ⟨inputs, outputs, -⟩ := Signature.mk.inj (Option.some.inj signatures)
  have inputElem : input.elem = otherInput.elem := congrArg ArgType.elem (List.cons.inj inputs).1
  have outputElem : output.elem = otherOutput.elem := congrArg ArgType.elem outputs
  obtain ⟨sameGreatest, sameTotal⟩ := Softmax.aggregates_eq
    (s := ⟨isLog, greatest, total, input.elem, output.elem⟩)
    (t := ⟨isLog, otherGreatest, otherTotal, otherInput.elem, otherOutput.elem⟩)
    greatestBuilt totalBuilt otherGreatestBuilt otherTotalBuilt inputElem outputElem listings
  simp only at sameGreatest sameTotal
  rw [sameGreatest, sameTotal, inputElem, outputElem]
  exact congrArg₂ (Kernel.mk _) signatures options

/-! ## Gradients -/

/-- A gradient is compiled from one aggregate, without a signature. -/
theorem softmaxGradient_eq_ok {node : Node} {axis : Option Int} {config : Config} {k : Kernel}
    (compiled : softmaxGradient node axis config = .ok k) :
    ∃ (second output : TensorType) (resolved : Option Nat) (total : Aggregate),
      node.outputs = [output] ∧ resolved.isSome = axis.isSome ∧
      Aggregate.build (.prim .add) 0 resolved second.rank output.elem config = .ok total ∧
      k = ⟨(SoftmaxGradient.mk total output.elem).definition, none, Options.reduction config⟩ := by
  unfold softmaxGradient at compiled
  split at compiled
  next first second listed =>
    simp only [Outcome.bind_eq_ok] at compiled
    obtain ⟨output, onlyOutput, resolved, denotes, total, built, rest⟩ := compiled
    simp only [Kernel.compileReduction, Bool.false_eq_true, if_false, Kernel.compile_eq] at rest
    exact ⟨second, output, resolved, total, Node.outputs_of_onlyOutput onlyOutput,
      isSome_of_resolveAxis denotes, built, (Except.ok.inj rest).symm⟩
  next => simp at compiled

namespace SoftmaxGradient

/-- The title of a gradient is plain. -/
theorem plainTitle (g : SoftmaxGradient) : g.definition.PlainTitle :=
  ⟨show ' ' ∉ "softmax_grad".toList by decide, show '\n' ∉ "softmax_grad".toList by decide,
    show '\n' ∉ "loop.softmax_grad".toList by decide⟩

/-- The listing tells whether there is an axis, and along an axis it tells everything. -/
theorem eq_of_listing {g h : SoftmaxGradient} {axis otherAxis : Option Nat} {rank otherRank : Nat}
    {config other : Config}
    (total : Aggregate.build (.prim .add) 0 axis rank g.output config = .ok g.total)
    (otherTotal : Aggregate.build (.prim .add) 0 otherAxis otherRank h.output other = .ok h.total)
    (listings : g.definition.listing.render = h.definition.listing.render) :
    axis.isSome = otherAxis.isSome ∧ (axis.isSome = true ∨ g.output = h.output → g = h) := by
  have shown : (g.total.listing ++ Listing.function "softmax_grad(dy, sm)" g.body).render =
      (h.total.listing ++ Listing.function "softmax_grad(dy, sm)" h.body).render := listings
  have function : ∀ g : SoftmaxGradient,
      (Listing.function "softmax_grad(dy, sm)" g.body).render.toList.head? ≠ some '/' := by
    intro g
    rw [Listing.head?_function _ _ (show _ = some 's' from rfl)]
    decide
  have axes := Aggregate.isSome_eq_of_listing total otherTotal (fun _ => function g)
    (fun _ => function h) shown
  refine ⟨axes, ?_⟩
  obtain ⟨gTotal, gOutput⟩ := g
  obtain ⟨hTotal, hOutput⟩ := h
  rw [mk.injEq]
  cases axis with
  | none =>
    obtain rfl : otherAxis = none := by simpa using axes.symm
    rintro (someAxis | outputs)
    · simp at someAxis
    · exact ⟨Aggregate.whole_eq total otherTotal outputs, outputs⟩
  | some number =>
    obtain ⟨otherNumber, rfl⟩ := Option.isSome_iff_exists.mp axes.symm
    obtain ⟨totals, outputs, -⟩ := Aggregate.axis_eq_of_listing total otherTotal shown
    exact fun _ => ⟨totals, outputs⟩

end SoftmaxGradient

/-- Gradients of the whole array into one type are the same kernel but for the options. -/
theorem softmaxGradient_eq_whole {node : Node} {config : Config} {k : Kernel}
    (compiled : softmaxGradient node none config = .ok k) :
    ∃ (output : TensorType) (total : Aggregate), node.outputs = [output] ∧
      Aggregate.build (.prim .add) 0 none 0 output.elem config = .ok total ∧
      k = ⟨(SoftmaxGradient.mk total output.elem).definition, none, Options.reduction config⟩ := by
  obtain ⟨second, output, resolved, total, outputs, found, built, kernel⟩ :=
    softmaxGradient_eq_ok compiled
  obtain rfl : resolved = none := by simpa using found
  exact ⟨output, total, outputs, built, kernel⟩

/-- A gradient of the whole array accepts single elements and gives one of the output type. -/
theorem call_softmaxGradient_single {node : Node} {config : Config} {k : Kernel}
    {output : TensorType} (outputs : node.outputs = [output])
    (compiled : softmaxGradient node none config = .ok k) :
    ∃ result, k.call [Tensor.single (.int 0) .i64, Tensor.single (.int 0) .i64] =
      .ok (.tensor result) ∧ result.elem = output.elem := by
  -- Without an axis the declared rank of the inputs plays no part, so rank zero will do.
  let scalar : TensorType := .dynamic .i64 0
  obtain ⟨kernel, single, gradient⟩ := softmaxGradient_represents (.softmaxGrad none) none none
    scalar scalar output rfl (by simp) config
  obtain rfl : k = kernel := by
    obtain ⟨type, total, listed, built, rfl⟩ := softmaxGradient_eq_whole compiled
    obtain ⟨otherType, otherTotal, otherListed, otherBuilt, rfl⟩ := softmaxGradient_eq_whole single
    obtain rfl : output = type := by simpa [outputs] using listed
    obtain rfl : output = otherType := by simpa using otherListed
    rw [Except.ok.inj (built.symm.trans otherBuilt)]
  have zero := Tensor.single_represents (.int 0) .i64
  obtain ⟨result, called, represents⟩ := (gradient _ _ .i64 .i64 [] _ _ rfl zero zero).1 (by decide)
  exact ⟨result, called, represents.elem_eq⟩

/-- Gradients with the same source both have an axis or both have none. They agree exactly when
    they have one or give the same type. -/
theorem softmaxGradient_agrees_iff {node other : Node} {axis otherAxis : Option Int}
    {config otherConfig : Config} {k l : Kernel}
    (compiled : softmaxGradient node axis config = .ok k)
    (otherCompiled : softmaxGradient other otherAxis otherConfig = .ok l)
    (same : k.source = l.source) :
    axis.isSome = otherAxis.isSome ∧
      (k.Agrees l ↔ axis.isSome = true ∨
        node.outputs.map TensorType.elem = other.outputs.map TensorType.elem) := by
  obtain ⟨second, output, resolved, total, outputs, found, built, kernel⟩ :=
    softmaxGradient_eq_ok compiled
  obtain ⟨otherSecond, otherOutput, otherResolved, otherTotal, otherOutputs, otherFound, otherBuilt,
    otherKernel⟩ := softmaxGradient_eq_ok otherCompiled
  let g : SoftmaxGradient := ⟨total, output.elem⟩
  let h : SoftmaxGradient := ⟨otherTotal, otherOutput.elem⟩
  have plain : k.definition.PlainTitle := kernel ▸ g.plainTitle
  have otherPlain : l.definition.PlainTitle := otherKernel ▸ h.plainTitle
  obtain ⟨-, -, -, options, listings⟩ := Kernel.source_inj plain otherPlain same
  rw [kernel, otherKernel] at listings options
  obtain ⟨axes, equal⟩ :=
    SoftmaxGradient.eq_of_listing (g := g) (h := h) built otherBuilt listings
  have bothAxes : axis.isSome = otherAxis.isSome := found.symm.trans (axes.trans otherFound)
  refine ⟨bothAxes, ?_, ?_⟩
  · intro agree
    cases axis with
    | some number => exact .inl rfl
    | none =>
      obtain rfl : otherAxis = none := by simpa using bothAxes.symm
      obtain ⟨result, called, type⟩ := call_softmaxGradient_single outputs compiled
      obtain ⟨otherResult, otherCalled, otherType⟩ :=
        call_softmaxGradient_single otherOutputs otherCompiled
      have valid := (Tensor.single_represents (.int 0) .i64).valid
      have both := agree [Tensor.single (.int 0) .i64, Tensor.single (.int 0) .i64]
        (by simp [valid])
      rw [called, otherCalled] at both
      obtain rfl : result = otherResult := Value.tensor.inj (Option.some.inj both)
      right
      rw [outputs, otherOutputs, List.map_singleton, List.map_singleton, ← type, otherType]
  · intro told
    have gradients : g = h := by
      apply equal
      rw [found]
      refine told.imp id ?_
      intro types
      simpa [outputs, otherOutputs] using types
    have kernels : k = l := by
      rw [kernel, otherKernel]
      exact congrArg₂ (fun (g : SoftmaxGradient) o => Kernel.mk g.definition none o) gradients
        options
    rw [kernels]
    exact l.agrees_refl

/-! ## Argmaxes -/

namespace ArgmaxPlan

/-- The title of an argmax is plain. -/
theorem plainTitle (p : ArgmaxPlan) : p.definition.PlainTitle :=
  ⟨show ' ' ∉ "argmax".toList by decide, show '\n' ∉ "argmax".toList by decide,
    show '\n' ∉ "loop.argmax".toList by decide⟩

/-- The lanes along the axis behind the kept ones. -/
def lanes (kept : Nat) : AxisApply :=
  ⟨"axis_apply_argmax", "argmax", Argmax.lane, kept, kept + 1, .i64⟩

/-- The axes that are not listed, in increasing order; without a list there are none. -/
def keptAxes (axes : Option (List Nat)) (rank : Nat) : List Nat :=
  Axis.others rank (axes.getD (Axis.every rank))

/-- The listed axes in increasing order, each of them once; without a list all axes. -/
def reducedAxes (axes : Option (List Nat)) (rank : Nat) : List Nat :=
  (Axis.every rank).filter fun axis => axis ∈ axes.getD (Axis.every rank)

/-- Where there are axes, the kept ones come first and the lanes lie behind them. -/
theorem build_eq_joint {axes : Option (List Nat)} {rank : Nat} {p : ArgmaxPlan}
    (built : build axes rank = .ok p) (positive : rank ≠ 0) :
    p = joint (keptAxes axes rank ++ reducedAxes axes rank) (keptAxes axes rank).length
      (lanes (keptAxes axes rank).length) := by
  rw [build, if_neg positive] at built
  dsimp only at built
  split at built
  · simp at built
  next allFound =>
    obtain ⟨-, members⟩ := Axis.dropRepeats_spec _
      (List.pairwise_insertionSort (· ≤ ·) (axes.getD (Axis.every rank)))
    have inside : ∀ axis ∈ axes.getD (Axis.every rank), axis < rank := by
      intro axis listed
      rw [← List.mem_insertionSort (· ≤ ·), ← members, ← Axis.sortBy_eq] at listed
      simpa using List.find?_eq_none.mp allFound axis listed
    have reduced := Axis.dropRepeats_sortBy inside
    have kept : Axis.others rank (reducedAxes axes rank) = keptAxes axes rank := by
      refine List.filter_congr fun axis below => ?_
      simp [reducedAxes, below]
    rw [reduced] at built
    simp only [Outcome.bind_eq_ok, AxisApply.build, Outcome.ofAxis_eq_ok] at built
    obtain ⟨along, ⟨axis, found, same⟩, joint⟩ := built
    obtain rfl := Except.ok.inj same
    obtain rfl := Except.ok.inj joint
    obtain ⟨bound, named⟩ := (Axis.resolve_eq_ok _ _ _).mp found
    obtain rfl : axis = (keptAxes axes rank).length := by
      rw [← kept, reducedAxes]
      omega
    rw [← kept]
    rfl

/-- A plan has one place, or lanes behind the kept axes. -/
theorem build_eq_ok {axes : Option (List Nat)} {rank : Nat} {p : ArgmaxPlan}
    (built : build axes rank = .ok p) :
    p = rankZero ∨ ∃ (order : List Nat) (kept : Nat), p = joint order kept (lanes kept) := by
  by_cases zero : rank = 0
  · left
    rw [build, if_pos zero] at built
    exact (Except.ok.inj built).symm
  · right
    exact ⟨_, _, build_eq_joint built zero⟩

/-- The listing of the lanes tells how many axes are kept, also with more text behind it. -/
theorem kept_eq_of_lines {kept otherKept : Nat} {behind after : Listing}
    (same : ((lanes kept).lines ++ behind).render = ((lanes otherKept).lines ++ after).render) :
    kept = otherKept := by
  have opening : ∀ kept behind, ∃ tail, (lanes kept).lines ++ behind =
      [⟨0, "axis_apply_argmax(x) \x7b"⟩] ++ ⟨1, "x_reaxis = transpose(x, (" ++
        Listing.commas ((lanes kept).order.map toString) ++ "));"⟩ :: tail :=
    fun kept behind => ⟨_, rfl⟩
  have oneLine : ∀ kept, '\n' ∉ ("x_reaxis = transpose(x, (" ++
      Listing.commas ((lanes kept).order.map toString) ++ "));").toList := by
    intro kept
    simp [Listing.oneLine_numbers]
  obtain ⟨tail, spelled⟩ := opening kept behind
  obtain ⟨otherTail, otherSpelled⟩ := opening otherKept after
  rw [spelled, otherSpelled] at same
  have body := Listing.render_append_inj same
  have orders := (Listing.render_cons_inj (oneLine _) (oneLine _) body).1
  simp only [String.append_assoc, String.append_right_inj, String.append_left_inj] at orders
  -- The axis of the lanes stands last in their order.
  have last := congrArg List.getLast? (Listing.eq_of_commas_numbers orders)
  simpa [AxisApply.order, lanes] using last

/-- The line that moves the reduced axes last. -/
def transposeLine (order : List Nat) : String :=
  "transposed_x = ascontiguousarray(transpose(x, (" ++ Listing.commas (order.map toString) ++ ")));"

/-- The transposition is one line. -/
theorem oneLine_transposeLine (order : List Nat) : '\n' ∉ (transposeLine order).toList := by
  unfold transposeLine
  simp [Listing.oneLine_numbers]

/-- Behind the lanes stands the function that moves the axes. -/
theorem listing_joint (order : List Nat) (kept : Nat) :
    ∃ tail, (joint order kept (lanes kept)).listing = (lanes kept).lines ++
      ([Line.blank, ⟨0, "argmax(x) \x7b"⟩] ++ ⟨1, transposeLine order⟩ :: tail) := by
  rw [listing, List.append_assoc]
  exact ⟨_, rfl⟩

/-- A plan is found in its listing. -/
theorem eq_of_listing {axes otherAxes : Option (List Nat)} {rank otherRank : Nat}
    {p q : ArgmaxPlan} (built : build axes rank = .ok p)
    (otherBuilt : build otherAxes otherRank = .ok q)
    (same : p.listing.render = q.listing.render) : p = q := by
  have opening : ∀ order kept, ∃ tail, (joint order kept (lanes kept)).listing =
      ⟨0, "axis_apply_argmax(x) \x7b"⟩ :: tail := fun order kept => ⟨_, rfl⟩
  have single : rankZero.listing =
      [⟨0, "argmax(x) \x7b"⟩, ⟨1, "return 0;"⟩, ⟨0, "\x7d"⟩] := rfl
  obtain rfl | ⟨order, kept, rfl⟩ := build_eq_ok built
  · obtain rfl | ⟨otherOrder, otherKept, rfl⟩ := build_eq_ok otherBuilt
    · rfl
    · obtain ⟨tail, spelled⟩ := opening otherOrder otherKept
      rw [single, spelled] at same
      exact absurd (Listing.render_cons_inj (by decide) (by decide) same).1 (by decide)
  · obtain rfl | ⟨otherOrder, otherKept, rfl⟩ := build_eq_ok otherBuilt
    · obtain ⟨tail, spelled⟩ := opening order kept
      rw [single, spelled] at same
      exact absurd (Listing.render_cons_inj (by decide) (by decide) same).1 (by decide)
    · obtain ⟨tail, spelled⟩ := listing_joint order kept
      obtain ⟨otherTail, otherSpelled⟩ := listing_joint otherOrder otherKept
      rw [spelled, otherSpelled] at same
      obtain rfl := kept_eq_of_lines same
      have body := Listing.render_append_inj (Listing.render_append_inj same)
      have orders := (Listing.render_cons_inj (oneLine_transposeLine _) (oneLine_transposeLine _)
        body).1
      unfold transposeLine at orders
      simp only [String.append_assoc, String.append_right_inj, String.append_left_inj] at orders
      rw [Listing.eq_of_commas_numbers orders]

end ArgmaxPlan

/-- An argmax is compiled to a plan. -/
theorem argmax_eq_ok {node : Node} {axes : Option (List Nat)} {config : Config} {k : Kernel}
    (compiled : argmax node axes config = .ok k) :
    ∃ p : ArgmaxPlan,
      (∃ input, node.inputs = [input] ∧ ArgmaxPlan.build axes input.rank = .ok p) ∧
      k = ⟨p.definition, none, Options.ofConfig config⟩ := by
  simp only [argmax, Outcome.bind_eq_ok, Kernel.compile_eq] at compiled
  obtain ⟨input, only, _, -, p, built, kernel⟩ := compiled
  exact ⟨p, ⟨input, Node.inputs_of_onlyInput only, built⟩, (Except.ok.inj kernel).symm⟩

/-- An argmax is found in its source. -/
theorem argmax_eq_of_source {node other : Node} {axes otherAxes : Option (List Nat)}
    {config otherConfig : Config} {k l : Kernel} (compiled : argmax node axes config = .ok k)
    (otherCompiled : argmax other otherAxes otherConfig = .ok l) (same : k.source = l.source) :
    k = l := by
  obtain ⟨p, ⟨_, -, built⟩, rfl⟩ := argmax_eq_ok compiled
  obtain ⟨q, ⟨_, -, otherBuilt⟩, rfl⟩ := argmax_eq_ok otherCompiled
  obtain ⟨-, -, -, options, listings⟩ := Kernel.source_inj p.plainTitle q.plainTitle same
  obtain rfl := ArgmaxPlan.eq_of_listing built otherBuilt listings
  exact congrArg (Kernel.mk p.definition none) options

end LoopKernels.Lowering
