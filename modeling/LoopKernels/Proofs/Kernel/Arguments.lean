import LoopKernels.Proofs.Gufunc.Binding
import LoopKernels.Proofs.Kernel.Signed
import LoopKernels.Proofs.Text.Delimited
import Mathlib.Data.List.Forall2

/-!
# The arguments that a signature accepts

A signature declares an element type and a rank for each argument, and lengths are meant
to be free. Ranks are checked by way of generated names: axis `j` of argument `n` is named
by the numeral of `n` followed by the numeral of `j`, and axes of one name must have one
length. With at most eleven arguments, or with ranks up to ten, no two axes share a name.
Beyond that they may: axis 10 of argument 1 and axis 0 of argument 11 are both named 110,
and a signature refuses arguments of the declared ranks whose lengths there differ.
-/

namespace LoopKernels

namespace CoreSignature

/-- Axes of one generated name have one length. -/
def NamesAgree (shapes : List Shape) : Prop :=
  ∀ (a b i j m n : Nat) (first second : Shape), shapes[a]? = some first →
    shapes[b]? = some second → first[i]? = some m → second[j]? = some n →
    toString a ++ toString i = toString b ++ toString j → m = n

/-- No numeral is a zero followed by another numeral. -/
theorem toDigits_ne_zero_append (m n : Nat) : Nat.toDigits 10 m ≠ '0' :: Nat.toDigits 10 n := by
  intro same
  by_cases zero : m = 0
  · subst zero
    have rest : Nat.toDigits 10 n = [] := by simpa using same.symm
    exact Nat.toDigits_ne_nil rest
  · exact Delimited.head?_toDigits m zero (by rw [same]; rfl)

/-- The numerals of two pairs run together alike only for equal pairs, as long as the first
    numbers are at most ten or the second ones have one digit. -/
theorem eq_of_numerals_eq (a b i j : Nat)
    (same : toString a ++ toString i = toString b ++ toString j)
    (small : (a ≤ 10 ∧ b ≤ 10) ∨ (i < 10 ∧ j < 10)) : a = b ∧ i = j := by
  have digits : Nat.toDigits 10 a ++ Nat.toDigits 10 i =
      Nat.toDigits 10 b ++ Nat.toDigits 10 j := by
    simpa [Nat.toString_eq_ofList_toDigits] using congrArg String.toList same
  have split (lengths : (Nat.toDigits 10 a).length = (Nat.toDigits 10 b).length) :
      a = b ∧ i = j := by
    obtain ⟨firsts, seconds⟩ := List.append_inj digits lengths
    exact ⟨Delimited.eq_of_toDigits_eq firsts, Delimited.eq_of_toDigits_eq seconds⟩
  have one (n : Nat) (below : n < 10) : (Nat.toDigits 10 n).length = 1 := by
    rw [Nat.toDigits_of_lt_base below]
    rfl
  rcases small with ⟨aSmall, bSmall⟩ | ⟨iSmall, jSmall⟩
  · rcases Nat.lt_or_eq_of_le aSmall with aDigit | rfl <;>
      rcases Nat.lt_or_eq_of_le bSmall with bDigit | rfl
    · exact split ((one a aDigit).trans (one b bDigit).symm)
    · rw [Nat.toDigits_of_lt_base aDigit] at digits
      have tail : Nat.toDigits 10 i = '0' :: Nat.toDigits 10 j := (List.cons.inj digits).2
      exact absurd tail (toDigits_ne_zero_append i j)
    · rw [Nat.toDigits_of_lt_base bDigit] at digits
      have tail : Nat.toDigits 10 j = '0' :: Nat.toDigits 10 i := (List.cons.inj digits).2.symm
      exact absurd tail (toDigits_ne_zero_append j i)
    · exact split rfl
  · have whole := congrArg List.length digits
    rw [List.length_append, List.length_append, one i iSmall, one j jSmall] at whole
    exact split (by omega)

/-- With at most eleven shapes, or with ranks up to ten, names are not shared. -/
theorem namesAgree_of_small (shapes : List Shape)
    (small : shapes.length ≤ 11 ∨ ∀ shape ∈ shapes, shape.length ≤ 10) : NamesAgree shapes := by
  intro a b i j m n first second atA atB atI atJ same
  obtain ⟨aBound, -⟩ := List.getElem?_eq_some_iff.mp atA
  obtain ⟨bBound, -⟩ := List.getElem?_eq_some_iff.mp atB
  obtain ⟨iBound, -⟩ := List.getElem?_eq_some_iff.mp atI
  obtain ⟨jBound, -⟩ := List.getElem?_eq_some_iff.mp atJ
  obtain ⟨rfl, rfl⟩ : a = b ∧ i = j := by
    apply eq_of_numerals_eq a b i j same
    rcases small with few | low
    · left
      omega
    · right
      have firstLow := low first (List.mem_of_getElem? atA)
      have secondLow := low second (List.mem_of_getElem? atB)
      omega
  obtain rfl : first = second := Option.some.inj (atA.symm.trans atB)
  exact Option.some.inj (atI.symm.trans atJ)

/-- The places of the generated names: every axis of every shape, with its length. -/
theorem mem_generated_places (shapes : List Shape) (place : String × Nat) :
    place ∈ ((generatedSide "i" (shapes.map List.length)).zip shapes).flatMap operandPlaces ↔
      ∃ (a i m : Nat) (shape : Shape), shapes[a]? = some shape ∧ shape[i]? = some m ∧
        place = ("i" ++ toString a ++ toString i, m) := by
  have names (a : Nat) (shape : Shape) :
      operandPlaces (generatedNames "i" a shape.length, shape) =
        (generatedNames "i" a shape.length).zip shape := by
    simp [operandPlaces, generatedNames]
  rw [List.mem_flatMap]
  constructor
  · rintro ⟨⟨operand, shape⟩, listed, member⟩
    obtain ⟨a, here⟩ := List.mem_iff_getElem?.mp listed
    obtain ⟨named, shaped⟩ := List.getElem?_zip_eq_some.mp here
    simp only [generatedSide, List.getElem?_mapIdx, List.getElem?_map, shaped, Option.map_some,
      Option.some.injEq] at named
    subst named
    rw [names] at member
    obtain ⟨i, there⟩ := List.mem_iff_getElem?.mp member
    obtain ⟨named, length⟩ := List.getElem?_zip_eq_some.mp there
    obtain ⟨bound, -⟩ := List.getElem?_eq_some_iff.mp length
    refine ⟨a, i, place.2, shape, shaped, length, ?_⟩
    simp only [generatedNames, List.getElem?_map, List.getElem?_range bound, Option.map_some,
      Option.some.injEq] at named
    rw [named]
  · rintro ⟨a, i, m, shape, shaped, length, rfl⟩
    refine ⟨(generatedNames "i" a shape.length, shape), ?_, ?_⟩
    · apply List.mem_iff_getElem?.mpr
      refine ⟨a, List.getElem?_zip_eq_some.mpr ⟨?_, shaped⟩⟩
      simp [generatedSide, shaped]
    · rw [names]
      apply List.mem_iff_getElem?.mpr
      obtain ⟨bound, -⟩ := List.getElem?_eq_some_iff.mp length
      refine ⟨i, List.getElem?_zip_eq_some.mpr ⟨?_, length⟩⟩
      simp [generatedNames, bound]

/-- Generated names are given no two lengths exactly when axes of one name have one length. -/
theorem consistent_generated_iff (shapes : List Shape) :
    Consistent (((generatedSide "i" (shapes.map List.length)).zip shapes).flatMap operandPlaces) ↔
      NamesAgree shapes := by
  have sameName (a b i j : Nat) :
      "i" ++ toString a ++ toString i = "i" ++ toString b ++ toString j ↔
        toString a ++ toString i = toString b ++ toString j := by
    rw [String.append_assoc, String.append_assoc, String.append_right_inj]
  constructor
  · intro consistent a b i j m n first second atA atB atI atJ same
    exact consistent _ ((mem_generated_places _ _).mpr ⟨a, i, m, first, atA, atI, rfl⟩) _
      ((mem_generated_places _ _).mpr ⟨b, j, n, second, atB, atJ, rfl⟩)
      ((sameName a b i j).mpr same)
  · intro agree left leftListed right rightListed same
    obtain ⟨a, i, m, first, atA, atI, rfl⟩ := (mem_generated_places _ _).mp leftListed
    obtain ⟨b, j, n, second, atB, atJ, rfl⟩ := (mem_generated_places _ _).mp rightListed
    exact agree a b i j m n first second atA atB atI atJ ((sameName a b i j).mp same)

end CoreSignature

/-- One array is another in a declared element type: of the same shape, with each element cast,
    and the same array when it has that type already. -/
structure Tensor.Converted (t : Tensor) (elem : ElemType) (u : Tensor) : Prop where
  elem_eq : u.elem = elem
  shape_eq : u.shape = t.shape
  valid : u.Valid
  kept : t.elem = elem → u = t
  cast : t.elem ≠ elem → u.toList = t.toList.map (·.cast elem)

/-- Conversion is what is declared of it. -/
theorem Tensor.Valid.converted {t : Tensor} (valid : t.Valid) (elem : ElemType) :
    t.Converted elem (t.convert elem) := by
  by_cases same : elem = t.elem
  · subst same
    have unchanged : t.convert t.elem = t := if_pos rfl
    rw [unchanged]
    exact ⟨rfl, rfl, valid, fun _ => rfl, fun other => absurd rfl other⟩
  · have changed : t.convert elem = withScalars elem t.shape t.toList := if_neg same
    have listed := toList_withScalars elem t.shape t.toList
    rw [changed]
    refine ⟨rfl, rfl, ⟨Cells.family_collect _ _, ?_, valid.2.2⟩,
      fun other => absurd other.symm same, fun _ => listed⟩
    have sizes := congrArg List.length listed
    rw [List.length_map, toList, Cells.length_toList, Cells.length_toList] at sizes
    exact sizes.trans valid.2.1

namespace Signature

/-- Arguments are brought into the declared form exactly when their ranks are as declared. -/
theorem coerceFrom_eq_ok (s : Signature) (position : Nat) (entries : List (ArgType × Tensor))
    (coerced : List Tensor) :
    s.coerceFrom position entries = .ok coerced ↔
      (∀ entry ∈ entries, entry.2.rank = entry.1.rank) ∧
        coerced = entries.map fun entry => entry.2.convert entry.1.elem := by
  induction entries generalizing position coerced with
  | nil => simp [coerceFrom, eq_comm]
  | cons entry entries inductionHypothesis =>
    obtain ⟨expected, t⟩ := entry
    simp only [coerceFrom, coerceInput, Outcome.bind_eq_ok, inductionHypothesis,
      List.forall_mem_cons, List.map_cons, Outcome.pure_ok, Except.ok.injEq]
    by_cases rank : t.rank = expected.rank
    · simp [rank, eq_comm]
    · simp [rank]

/-- Arguments are accepted exactly when their ranks are as declared and axes of one generated
    name have one length; each is then converted to its declared element type. -/
theorem coerceInputs_eq_ok (s : Signature) (inputs coerced : List Tensor) :
    s.coerceInputs inputs = .ok coerced ↔
      (inputs.map Tensor.rank = s.inputs.map ArgType.rank ∧
        CoreSignature.NamesAgree (inputs.map Tensor.shape)) ∧
      coerced = (s.inputs.zip inputs).map fun entry => entry.2.convert entry.1.elem := by
  have lengths : inputs.map Tensor.rank = (inputs.map Tensor.shape).map List.length := by
    rw [List.map_map]
    rfl
  have ofCore (x : Except SignatureError CoreSignature.Binding) :
      (∃ binding, KernelError.ofCore x = .ok binding) ↔ ∃ binding, x = .ok binding := by
    cases x <;> simp [KernelError.ofCore]
  have unfolded : s.coerceInputs inputs = .ok coerced ↔
      (∃ binding, (CoreSignature.generated (s.inputs.map ArgType.rank) [s.output.rank]).bind
        (inputs.map Tensor.shape) = .ok binding) ∧
      s.coerceFrom 0 (s.inputs.zip inputs) = .ok coerced := by
    rw [coerceInputs, core_eq, Outcome.bind_ok, Outcome.bind_eq_ok, ← ofCore]
    simp only [exists_and_right]
  have inputNames : (CoreSignature.generated (s.inputs.map ArgType.rank) [s.output.rank]).inputs =
      CoreSignature.generatedSide "i" (s.inputs.map ArgType.rank) := rfl
  rw [unfolded, coerceFrom_eq_ok, CoreSignature.exists_bind_iff, inputNames]
  constructor
  · rintro ⟨⟨count, -, consistent⟩, ranks, rfl⟩
    have sameLength : inputs.length = s.inputs.length := by
      simpa [CoreSignature.generatedSide] using count
    have sameRanks : inputs.map Tensor.rank = s.inputs.map ArgType.rank := by
      apply List.ext_getElem (by simp [sameLength])
      intro k here there
      have inputBound : k < inputs.length := by simpa using here
      have declaredBound : k < s.inputs.length := by simpa using there
      have entry : (s.inputs[k], inputs[k]) ∈ s.inputs.zip inputs :=
        List.mem_iff_getElem.mpr ⟨k, by rw [List.length_zip]; omega, by simp⟩
      simpa using ranks _ entry
    rw [← sameRanks, lengths, CoreSignature.consistent_generated_iff] at consistent
    exact ⟨⟨sameRanks, consistent⟩, rfl⟩
  · rintro ⟨⟨sameRanks, agree⟩, rfl⟩
    have entryRank : ∀ entry ∈ s.inputs.zip inputs, entry.2.rank = entry.1.rank := by
      intro entry listed
      obtain ⟨k, here⟩ := List.mem_iff_getElem?.mp listed
      obtain ⟨declared, given⟩ := List.getElem?_zip_eq_some.mp here
      have atK := congrArg (·[k]?) sameRanks
      simpa [declared, given] using atK
    refine ⟨⟨?_, ?_, ?_⟩, entryRank, rfl⟩
    · have count := congrArg List.length sameRanks
      simpa [CoreSignature.generatedSide] using count
    · rw [← sameRanks]
      intro operand listed
      obtain ⟨k, here⟩ := List.mem_iff_getElem?.mp listed
      obtain ⟨named, shaped⟩ := List.getElem?_zip_eq_some.mp here
      rw [List.getElem?_map, Option.map_eq_some_iff] at shaped
      obtain ⟨t, atK, shape⟩ := shaped
      simp only [CoreSignature.generatedSide, List.getElem?_mapIdx, List.getElem?_map, atK,
        Option.map_some, Option.some.injEq] at named
      simp [← named, ← shape, CoreSignature.generatedNames, Tensor.rank]
    · rw [← sameRanks, lengths, CoreSignature.consistent_generated_iff]
      exact agree

end Signature

/-- The signature of a node accepts arrays exactly when there is one for each input, each has the
    declared rank, and axes whose numerals run together alike have one length. What it accepts
    it converts to the declared element types. The last condition holds by itself for at most
    eleven arguments and for ranks up to ten. -/
theorem signature_accepts_iff (node : Node) (output : TensorType)
    (single : node.outputs = [output]) (scalar : Bool) (inputs : List Tensor)
    (valid : ∀ t ∈ inputs, t.Valid) :
    ∃ s, Signature.ofNode node scalar = .ok s ∧
      ((∃ coerced, s.coerceInputs inputs = .ok coerced) ↔
        inputs.map Tensor.rank = node.inputs.map TensorType.rank ∧
          CoreSignature.NamesAgree (inputs.map Tensor.shape)) ∧
      (∀ coerced, s.coerceInputs inputs = .ok coerced →
        List.Forall₂ (fun entry u => entry.2.Converted entry.1.elem u) (node.inputs.zip inputs)
          coerced) ∧
      ((inputs.length ≤ 11 ∨ ∀ t ∈ inputs, t.rank ≤ 10) →
        CoreSignature.NamesAgree (inputs.map Tensor.shape)) := by
  refine ⟨⟨node.inputs.map ArgType.ofType, .ofType output, scalar && output.rank == 0⟩, ?_, ?_, ?_,
    ?_⟩
  · simp [Signature.ofNode, single]
  · simp only [Signature.coerceInputs_eq_ok, exists_and_left, exists_eq, and_true, List.map_map]
    rfl
  · intro coerced accepted
    obtain ⟨-, rfl⟩ := (Signature.coerceInputs_eq_ok _ _ _).mp accepted
    rw [List.zip_map_left, List.map_map, List.forall₂_map_right_iff, List.forall₂_same]
    intro entry listed
    exact (valid entry.2 (List.of_mem_zip listed).2).converted _
  · intro small
    apply CoreSignature.namesAgree_of_small
    rcases small with few | low
    · left
      simpa using few
    · right
      simpa [Tensor.rank] using low

/-- A sum of twelve arrays of which the second has eleven axes and the last has one. -/
def twelveFold : Node :=
  ⟨.elementwise (.prim .add) .empty,
    [.dynamic .i64 0, .dynamic .i64 11] ++ List.replicate 9 (.dynamic .i64 0) ++ [.dynamic .i64 1],
    [.dynamic .i64 0]⟩

/-- Arrays of the declared ranks; the axes both named 110 have lengths one and two. -/
def twelveArrays : List Tensor :=
  [⟨.i64, [], .signed #[0]⟩, ⟨.i64, List.replicate 11 1, .signed #[0]⟩] ++
    List.replicate 9 ⟨.i64, [], .signed #[0]⟩ ++ [⟨.i64, [2], .signed #[0, 0]⟩]

/-- Twelve arrays of the declared ranks are refused. -/
theorem signature_accepts_iff_twelve :
    (∀ t ∈ twelveArrays, t.Valid) ∧
      twelveArrays.map Tensor.rank = twelveFold.inputs.map TensorType.rank ∧
      ∃ s, Signature.ofNode twelveFold false = .ok s ∧
        ∀ coerced, s.coerceInputs twelveArrays ≠ .ok coerced := by
  have valid : ∀ t ∈ twelveArrays, t.Valid := by decide
  obtain ⟨s, named, accepts, -⟩ :=
    signature_accepts_iff twelveFold (.dynamic .i64 0) rfl false twelveArrays valid
  have ranks : twelveArrays.map Tensor.rank = twelveFold.inputs.map TensorType.rank := by decide
  refine ⟨valid, ranks, s, named, ?_⟩
  intro coerced accepted
  obtain ⟨-, agree⟩ := accepts.mp ⟨coerced, accepted⟩
  have clash : (1 : Nat) = 2 :=
    agree 1 11 10 0 1 2 (List.replicate 11 1) [2] rfl rfl rfl rfl (by decide)
  exact absurd clash (by decide)

end LoopKernels
