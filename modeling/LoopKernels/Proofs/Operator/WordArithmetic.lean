import LoopKernels.Proofs.Operator.Running
import LoopKernels.Proofs.Scalar.Bits
import Mathlib.Data.List.Forall2

/-!
# Operators on words

On an integer type, some operators need nothing but the low bits of their operands: sums,
differences, products, negation and the bitwise operators. A composite of these is evaluated
step by step in words of 64 bits, signed or unsigned, and after each step the result is cut to
the width of the type. All the same it computes what the expression computes on words of that
width: cutting commutes with every operation, and the signed and the unsigned view of an integer
are one word.
-/

namespace LoopKernels

/-! ## Primitive operators -/

namespace Primitive

/-- The operators that need only the low bits of their operands. -/
def wordwise : Primitive → Bool
  | add | sub | mul | neg | and | or | xor | identity => true
  | _ => false

/-- The value on words, if the operator is one of these and takes as many. -/
def onWords {width : Nat} : Primitive → List (BitVec width) → Option (BitVec width)
  | add, x :: rest => some (rest.foldl (· + ·) x)
  | mul, x :: rest => some (rest.foldl (· * ·) x)
  | and, x :: rest => some (rest.foldl (· &&& ·) x)
  | or, x :: rest => some (rest.foldl (· ||| ·) x)
  | xor, x :: rest => some (rest.foldl (· ^^^ ·) x)
  | sub, [x, y] => some (x - y)
  | neg, [x] => some (-x)
  | identity, [x] => some x
  | _, _ => none

variable {e : ElemType} {a : Scalar} {x : BitVec e.width} {rest : List Scalar}
  {words : List (BitVec e.width)}

/-- A fold of a rule gives the element of the word that the fold of the operation gives. -/
theorem foldOperands_holds {rule : Rule}
    {operation : ∀ width, BitVec width → BitVec width → BitVec width}
    (computes : rule.Computes operation) (notBool : e.family ≠ .bool) (exact : e.isFloat = false)
    (first : a.Reads x) (others : List.Forall₂ Scalar.Reads rest words) :
    (foldOperands e (rule.apply e) a rest).Holds e
      (e.ofBits (words.foldl (operation e.width) x)) := by
  have step : ∀ ⦃sum : Scalar⦄ ⦃total⦄, sum.Holds e (e.ofBits total) →
      ∀ ⦃next : Scalar⦄ ⦃word⦄, next.Reads word →
        (rule.apply e sum next).Holds e (e.ofBits (operation e.width total word)) :=
    fun _ _ sum _ _ next => computes.apply_holds notBool exact sum.reads next
  exact List.rel_foldl step (first.cast notBool exact) others

/-- Negation keeps to the family of its operand. -/
theorem negate_holds (notBool : e.family ≠ .bool) (exact : e.isFloat = false)
    (reads : a.Reads x) : (negate e a).Holds e (e.ofBits (-x)) := by
  have signed (word : Int64) (bits : word.toBitVec.setWidth e.width = x) :
      (Scalar.int (-word)).Reads (-x) := by
    have negated := Scalar.reads_int (-word) e.width_le
    rwa [Int64.toBitVec_neg, BitVec.setWidth_neg_of_le e.width_le, bits] at negated
  cases a with
  | float _ => simpa [Scalar.isFloat] using reads.isFloat_eq
  | bool b => exact (signed _ (reads.setWidth_toInt64 e.width_le)).cast notBool exact
  | int n => exact (signed _ (reads.setWidth_toInt64 e.width_le)).cast notBool exact
  | uint n =>
    have negated := Scalar.reads_uint (-n) e.width_le
    have bits : n.toBitVec.setWidth e.width = x := reads.setWidth_toUInt64 e.width_le
    rw [UInt64.toBitVec_neg, BitVec.setWidth_neg_of_le e.width_le, bits] at negated
    exact negated.cast notBool exact

/-- A primitive operator gives the element of the word that it gives on the words. -/
theorem evalOn_holds (p : Primitive) (wordwise : p.wordwise = true)
    (notBool : e.family ≠ .bool) (exact : e.isFloat = false) (first : a.Reads x)
    (others : List.Forall₂ Scalar.Reads rest words)
    (accepted : p.arity.accepts (rest.length + 1) = true) :
    ∃ bits, p.onWords (x :: words) = some bits ∧ (p.evalOn e a rest).Holds e (e.ofBits bits) := by
  have fold {rule : Rule} {operation} (computes : rule.Computes operation) :=
    foldOperands_holds computes notBool exact first others
  cases p with
  | add => exact ⟨_, rfl, fold Rule.add_computes⟩
  | mul => exact ⟨_, rfl, fold Rule.mul_computes⟩
  | and => exact ⟨_, rfl, fold Rule.and_computes⟩
  | or => exact ⟨_, rfl, fold Rule.or_computes⟩
  | xor => exact ⟨_, rfl, fold Rule.xor_computes⟩
  | sub =>
    obtain ⟨b, rfl⟩ : ∃ b, rest = [b] := by
      simpa [arity, Arity.accepts, List.length_eq_one_iff] using accepted
    cases others with
    | cons second none =>
      cases none
      exact ⟨_, rfl, Rule.sub_computes.apply_holds notBool exact first second⟩
  | neg =>
    obtain rfl : rest = [] := by simpa [arity, Arity.accepts] using accepted
    cases others
    exact ⟨_, rfl, negate_holds notBool exact first⟩
  | identity =>
    obtain rfl : rest = [] := by simpa [arity, Arity.accepts] using accepted
    cases others
    exact ⟨_, rfl, first.cast notBool exact⟩
  | _ => cases wordwise

end Primitive

/-! ## Composite operators -/

/-- The operand is an input or a step. -/
def Operand.isReference : Operand → Bool
  | const _ => false
  | _ => true

/-- The word of an operand among the words of the inputs and of the steps so far. -/
def Operand.word? {width : Nat} (inputs values : List (BitVec width)) :
    Operand → Option (BitVec width)
  | input i => inputs[i]?
  | step i => values[i]?
  | const _ => none

namespace Operator

mutual

/-- The operator is built from primitive operators that need only low bits, without constants. -/
def wordwise : Operator → Bool
  | prim p => p.wordwise
  | composite _ steps output => stepsWordwise steps && output.isReference
termination_by structural op => op

/-- All steps are wordwise. -/
def stepsWordwise : List (Operator × List Operand) → Bool
  | [] => true
  | step :: rest => stepWordwise step && stepsWordwise rest
termination_by structural steps => steps

/-- The operator of a step is wordwise, and no operand is a constant. -/
def stepWordwise : Operator × List Operand → Bool
  | (op, operands) => op.wordwise && operands.all Operand.isReference
termination_by structural step => step

end

variable {width : Nat}

mutual

/-- The value of the operator as an expression on words. -/
def onWords : Operator → List (BitVec width) → Option (BitVec width)
  | prim p, words => p.onWords words
  | composite _ steps output, words =>
    (stepsOnWords steps words []).bind fun values => output.word? words values
termination_by structural op => op

/-- The words of the steps, behind those of the steps so far. -/
def stepsOnWords : List (Operator × List Operand) → List (BitVec width) → List (BitVec width) →
    Option (List (BitVec width))
  | [], _, values => some values
  | step :: rest, inputs, values =>
    (stepOnWords step inputs values).bind fun value => stepsOnWords rest inputs (values ++ [value])
termination_by structural steps => steps

/-- The value of a step on words. -/
def stepOnWords : Operator × List Operand → List (BitVec width) → List (BitVec width) →
    Option (BitVec width)
  | (op, operands), inputs, values =>
    (operands.mapM (Operand.word? inputs values)).bind op.onWords
termination_by structural step => step

end

end Operator

variable {e : ElemType} {inputs values : List Scalar}
  {inputWords valueWords : List (BitVec e.width)}

/-- A scalar in a list is read as the word at its place. -/
theorem Scalar.exists_getElem?_reads (each : List.Forall₂ Scalar.Reads values valueWords)
    {i : Nat} {s : Scalar} (found : values[i]? = some s) :
    ∃ bits, valueWords[i]? = some bits ∧ s.Reads bits := by
  obtain ⟨bound, rfl⟩ := List.getElem?_eq_some_iff.mp found
  have wordBound : i < valueWords.length := each.length_eq ▸ bound
  exact ⟨valueWords[i], List.getElem?_eq_getElem wordBound, each.get bound wordBound⟩

/-- The scalar that a reference denotes is read as the word that it denotes. -/
theorem Operand.exists_word? (inputsRead : List.Forall₂ Scalar.Reads inputs inputWords)
    (valuesRead : List.Forall₂ Scalar.Reads values valueWords) {operand : Operand}
    (reference : operand.isReference = true) {s : Scalar}
    (resolved : operand.resolve inputs values = .ok s) :
    ∃ bits, operand.word? inputWords valueWords = some bits ∧ s.Reads bits := by
  cases operand with
  | input i =>
    refine Scalar.exists_getElem?_reads inputsRead ?_
    simp only [resolve] at resolved
    cases found : inputs[i]? with
    | none => simp [found] at resolved
    | some value => simpa [found] using resolved
  | step i =>
    refine Scalar.exists_getElem?_reads valuesRead ?_
    simp only [resolve] at resolved
    cases found : values[i]? with
    | none => simp [found] at resolved
    | some value => simpa [found] using resolved
  | const x => cases reference

/-- So are the scalars that several references denote. -/
theorem Operand.exists_mapM_word? (inputsRead : List.Forall₂ Scalar.Reads inputs inputWords)
    (valuesRead : List.Forall₂ Scalar.Reads values valueWords) {operands : List Operand}
    (references : operands.all isReference = true) {args : List Scalar}
    (resolved : operands.mapM (resolve inputs values) = .ok args) :
    ∃ words, operands.mapM (word? inputWords valueWords) = some words ∧
      List.Forall₂ Scalar.Reads args words := by
  induction operands generalizing args with
  | nil =>
    obtain rfl : [] = args := by simpa using resolved
    exact ⟨[], rfl, .nil⟩
  | cons operand operands inductionHypothesis =>
    rw [List.all_cons, Bool.and_eq_true] at references
    rw [List.mapM_cons, Outcome.bind_eq_ok] at resolved
    obtain ⟨s, first, others⟩ := resolved
    obtain ⟨rest, tail, same⟩ := (Outcome.bind_eq_ok _ _ _).mp others
    obtain rfl : s :: rest = args := by simpa using same
    obtain ⟨bits, word, reads⟩ := exists_word? inputsRead valuesRead references.1 first
    obtain ⟨words, tailWords, readsTail⟩ := inductionHypothesis references.2 tail
    exact ⟨bits :: words, by simp [List.mapM_cons, word, tailWords], .cons reads readsTail⟩

namespace Operator

/-- What is claimed of an operator: on operands that are read as words, its value is the element of
    the word that the expression gives. -/
def ComputesWords (op : Operator) (e : ElemType) : Prop :=
  ∀ args (words : List (BitVec e.width)) value, List.Forall₂ Scalar.Reads args words →
    op.eval args e = .ok value →
      ∃ bits, op.onWords words = some bits ∧ value.Holds e (e.ofBits bits)

/-- An operator that is evaluated has a first operand, and as many as it takes. -/
theorem operands?_eq_ok {op : Operator} {args rest : List Scalar} {first : Scalar}
    (split : op.operands? args e = .ok (first, rest)) :
    args = first :: rest ∧ op.arity.accepts (rest.length + 1) = true := by
  simp only [operands?] at split
  obtain ⟨accepted, split⟩ := (Outcome.check_eq_ok _ _ _).mp split
  obtain ⟨-, split⟩ := (Outcome.unless_eq_ok _ _ (fun _ => _) _).mp split
  cases args with
  | nil => cases split
  | cons head tail =>
    obtain ⟨rfl, rfl⟩ : head = first ∧ tail = rest := by simpa using split
    refine ⟨rfl, ?_⟩
    by_contra refused
    simp [checkArity, refused] at accepted

/-- One step, after steps whose values are read as words. -/
theorem evalStep_words {step : Operator × List Operand}
    (computes : step.1.wordwise = true → step.1.ComputesWords e)
    (wordwise : stepWordwise step = true)
    (inputsRead : List.Forall₂ Scalar.Reads inputs inputWords)
    (valuesRead : List.Forall₂ Scalar.Reads values valueWords) {value : Scalar}
    (evaluated : evalStep step inputs values e = .ok value) :
    ∃ bits, stepOnWords step inputWords valueWords = some bits ∧ value.Reads bits := by
  obtain ⟨op, operands⟩ := step
  rw [stepWordwise, Bool.and_eq_true] at wordwise
  rw [evalStep, Outcome.bind_eq_ok] at evaluated
  obtain ⟨args, resolved, result⟩ := evaluated
  obtain ⟨words, found, reads⟩ :=
    Operand.exists_mapM_word? inputsRead valuesRead wordwise.2 resolved
  obtain ⟨bits, computed, holds⟩ := computes wordwise.1 args words value reads result
  refine ⟨bits, ?_, holds.reads⟩
  rw [stepOnWords, found]
  exact computed

/-- The steps, one after the other. -/
theorem evalSteps_words {steps : List (Operator × List Operand)}
    (computes : ∀ step ∈ steps, step.1.wordwise = true → step.1.ComputesWords e)
    (wordwise : stepsWordwise steps = true)
    (inputsRead : List.Forall₂ Scalar.Reads inputs inputWords)
    (valuesRead : List.Forall₂ Scalar.Reads values valueWords) {final : List Scalar}
    (evaluated : evalSteps steps inputs values e = .ok final) :
    ∃ words, stepsOnWords steps inputWords valueWords = some words ∧
      List.Forall₂ Scalar.Reads final words := by
  induction steps generalizing values valueWords with
  | nil =>
    obtain rfl : values = final := by simpa [evalSteps] using evaluated
    exact ⟨valueWords, rfl, valuesRead⟩
  | cons step steps inductionHypothesis =>
    rw [List.forall_mem_cons] at computes
    rw [stepsWordwise, Bool.and_eq_true] at wordwise
    rw [evalSteps, Outcome.bind_eq_ok] at evaluated
    obtain ⟨value, first, others⟩ := evaluated
    obtain ⟨bits, computed, reads⟩ :=
      evalStep_words computes.1 wordwise.1 inputsRead valuesRead first
    have extended : List.Forall₂ Scalar.Reads (values ++ [value]) (valueWords ++ [bits]) :=
      List.rel_append valuesRead (.cons reads .nil)
    obtain ⟨words, rest, readsAll⟩ :=
      inductionHypothesis computes.2 wordwise.2 extended others
    refine ⟨words, ?_, readsAll⟩
    rw [stepsOnWords, computed]
    exact rest

/-- On an integer type, an operator that needs only low bits computes on words. -/
theorem computesWords (op : Operator) (wordwise : op.wordwise = true)
    (notBool : e.family ≠ .bool) (exact : e.isFloat = false) : op.ComputesWords e := by
  induction op using Operator.induction with
  | prim p =>
    intro args words value reads evaluated
    rw [eval, Outcome.bind_eq_ok] at evaluated
    obtain ⟨⟨first, rest⟩, split, result⟩ := evaluated
    obtain rfl : p.evalOn e first rest = value := by simpa using result
    obtain ⟨rfl, accepted⟩ := operands?_eq_ok split
    cases reads with
    | cons firstReads othersRead =>
      exact p.evalOn_holds wordwise notBool exact firstReads othersRead accepted
  | composite count steps output each =>
    intro args words value reads evaluated
    rw [Operator.wordwise, Bool.and_eq_true] at wordwise
    rw [eval, Outcome.bind_eq_ok] at evaluated
    obtain ⟨-, -, evaluated⟩ := evaluated
    obtain ⟨values, ran, evaluated⟩ := (Outcome.bind_eq_ok _ _ _).mp evaluated
    obtain ⟨result, resolved, cast⟩ := (Outcome.bind_eq_ok _ _ _).mp evaluated
    obtain rfl : result.cast e = value := by simpa using cast
    obtain ⟨valueWords, computed, valuesRead⟩ :=
      evalSteps_words each wordwise.1 reads .nil ran
    -- The output may be an input of another family, so it is cut as the steps are.
    obtain ⟨bits, found, resultReads⟩ :=
      Operand.exists_word? reads valuesRead wordwise.2 resolved
    refine ⟨bits, ?_, resultReads.cast notBool exact⟩
    rw [onWords, computed]
    exact found

/-- On an integer type, a composite of sums, differences, products, negations and bitwise operators
    without constants computes what the expression computes on words of the width of the type,
    whatever the families of its operands. -/
theorem eval_computes_words (op : Operator) (wordwise : op.wordwise = true) (e : ElemType)
    (whole : e.isInteger = true) (args : List Scalar) (integers : List Int)
    (integral : args.map Scalar.integer? = integers.map some) (value : Scalar)
    (evaluated : op.eval args e = .ok value) :
    ∃ n, value.Holds e n ∧ value.inBounds e = true ∧
      op.onWords (integers.map (BitVec.ofInt e.width)) = some (BitVec.ofInt e.width n) := by
  have reads : List.Forall₂ Scalar.Reads args (integers.map (BitVec.ofInt e.width)) := by
    rw [← List.forall₂_eq_eq_eq, List.forall₂_map_left_iff, List.forall₂_map_right_iff] at integral
    rw [List.forall₂_map_right_iff]
    exact integral.imp fun _ n integer => ⟨n, integer, rfl⟩
  obtain ⟨notBool, exact⟩ := e.family_of_isInteger whole
  obtain ⟨bits, computed, holds⟩ :=
    op.computesWords wordwise notBool exact args _ value reads evaluated
  refine ⟨e.ofBits bits, holds, holds.inBounds_eq, ?_⟩
  rw [computed, e.ofInt_ofBits holds.isFloat_eq]

/-- The product of two inputs less the first of them. -/
def lessFirst : Operator :=
  .composite 2 [(.prim .mul, [.input 0, .input 1]), (.prim .sub, [.step 0, .input 0])] (.step 1)

/-- It is negated and joined bit by bit with the last input and the first. -/
def joined : Operator :=
  .composite 3 [(lessFirst, [.input 1, .input 2]), (.prim .neg, [.step 0]),
    (.prim .xor, [.step 1, .input 2, .input 0])] (.step 2)

/-- A truth value, a signed and an unsigned word that do not fit the type. -/
theorem eval_computes_words_joined :
    joined.eval [.bool true, .int (-1000), .uint 70000] .i16 = .ok (.int 2281) ∧
      joined.onWords ([1, -1000, 70000].map (BitVec.ofInt 16)) =
        some (BitVec.ofInt 16 2281) := by
  have evaluated :
      joined.eval [.bool true, .int (-1000), .uint 70000] .i16 = .ok (.int 2281) := by
    decide +kernel
  obtain ⟨n, holds, -, computed⟩ := eval_computes_words joined rfl .i16 rfl _ [1, -1000, 70000] rfl
    _ evaluated
  obtain rfl : 2281 = n := Option.some.inj holds.integer_eq
  exact ⟨evaluated, computed⟩

end Operator

end LoopKernels
