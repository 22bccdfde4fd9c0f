import LoopKernels.Proofs.Scalar.Integers
import LoopKernels.Proofs.Text.Delimited
import LoopKernels.Reduction.Update
import LoopKernels.Scalar.Text

/-!
# Scalars in listings are found again

The text of a scalar is made of letters, digits, signs and points, so nothing that delimits
it occurs in it. Two elements of an integer or truth-value type with the same literal are
the same. Of doubles this is shown where listings depend on it: for the values that seed
the reductions by one operator, whatever type they were brought into first.
-/

namespace LoopKernels

/-! ## The characters of a literal -/

/-- The characters of which literals are made. -/
def isLiteralChar (c : Char) : Bool := c.isAlphanum || c == '-' || c == '.'

/-- Digits are characters of literals. -/
theorem isLiteralChar_number (n : Nat) : ∀ c ∈ (toString n).toList, isLiteralChar c = true := by
  intro c listed
  rw [Nat.toString_eq_ofList_toDigits, String.toList_ofList] at listed
  have digit := Nat.isDigit_of_mem_toDigits (by omega) (by omega) listed
  simp [isLiteralChar, Char.isAlphanum, digit]

/-- The characters of a row of zeros. -/
theorem Decimal.toList_zeros (count : Nat) :
    (zeros count).toList = List.replicate count '0' := by
  unfold zeros String.pushn
  induction count with
  | zero => rfl
  | succ count inductionHypothesis =>
    rw [Nat.repeat, String.toList_push, inductionHypothesis, List.replicate_succ']

/-- Positional text adds zeros and a point to the digits. -/
theorem Decimal.isLiteralChar_positional (n : Nat) (exponent : Int) :
    ∀ c ∈ (positional (toString n) exponent).toList, isLiteralChar c = true := by
  have digits := isLiteralChar_number n
  have zeros : ∀ count, ∀ c ∈ (zeros count).toList, isLiteralChar c = true := by
    intro count c listed
    rw [toList_zeros] at listed
    rw [List.eq_of_mem_replicate listed]
    decide
  intro c listed
  simp only [positional] at listed
  split at listed
  · simp only [String.toList_append, List.mem_append] at listed
    rcases listed with (digit | zero) | ending
    · exact digits c digit
    · exact zeros _ c zero
    · exact List.all_eq_true.mp (by decide) c ending
  · split at listed
    · have front : ∀ n (text : String), (text.take n).toString.toList = text.toList.take n := by
        simp
      have back : ∀ n (text : String), (text.drop n).toString.toList = text.toList.drop n := by simp
      simp only [String.toList_append, List.mem_append, front, back] at listed
      rcases listed with (digit | point) | digit
      · exact digits c (List.mem_of_mem_take digit)
      · exact List.all_eq_true.mp (by decide) c point
      · exact digits c (List.mem_of_mem_drop digit)
    · simp only [String.toList_append, List.mem_append] at listed
      rcases listed with (beginning | zero) | digit
      · exact List.all_eq_true.mp (by decide) c beginning
      · exact zeros _ c zero
      · exact digits c digit

/-- Doubles in listings are positional. -/
theorem isLiteralChar_listedFloat (x : Float) :
    ∀ c ∈ (listedFloat.text x).toList, isLiteralChar c = true := by
  have unsigned : ∀ c ∈ (if (Dyadic.ofFloat x).mantissa = 0 then "0.0"
      else listedFloat.decimalText ((Dyadic.ofFloat x).shortest listedFloat.tie)).toList,
      isLiteralChar c = true := by
    split
    · exact List.all_eq_true.mp (by decide)
    · simp only [FloatLayout.decimalText, listedFloat, if_true]
      exact Decimal.isLiteralChar_positional _ _
  intro c listed
  simp only [FloatLayout.text] at listed
  split at listed
  · simp only [String.toList_append, List.mem_append] at listed
    rcases listed with sign | digit
    · exact List.all_eq_true.mp (by decide) c sign
    · exact unsigned c digit
  · exact unsigned c listed

namespace Scalar

/-- The text of a scalar is made of the characters of literals. -/
theorem isLiteralChar_text (s : Scalar) : ∀ c ∈ s.text.toList, isLiteralChar c = true := by
  cases s with
  | bool b => cases b <;> exact List.all_eq_true.mp (by decide)
  | int n =>
    simp only [text]
    cases n.toInt with
    | ofNat m => exact isLiteralChar_number m
    | negSucc m =>
      intro c listed
      change c ∈ ("-" ++ toString (m + 1)).toList at listed
      simp only [String.toList_append, List.mem_append] at listed
      rcases listed with sign | digit
      · exact List.all_eq_true.mp (by decide) c sign
      · exact isLiteralChar_number _ c digit
  | uint n => exact isLiteralChar_number n.toNat
  | float x =>
    simp only [text]
    split
    · exact List.all_eq_true.mp (by decide)
    · split
      · split <;> exact List.all_eq_true.mp (by decide)
      · exact isLiteralChar_listedFloat x

/-- A character that is not used in literals is not in one. -/
theorem notMem_literal {mark : Char} (other : isLiteralChar mark = false) (s : Scalar)
    (e : ElemType) : mark ∉ (s.literal e).toList := by
  intro listed
  have chars := isLiteralChar_text (s.cast e)
  have used : isLiteralChar mark = true := by
    simp only [literal] at listed
    split at listed
    · split at listed
      · simp only [String.toList_append, List.mem_append] at listed
        rcases listed with written | marked
        · exact chars mark written
        · exact List.all_eq_true.mp (by decide) mark marked
      · exact chars mark listed
    · exact chars mark listed
  simp [used] at other

/-! ## Literals of integers -/

/-- The text of an integer begins with its sign. -/
theorem toString_int_inj {m n : Int} (same : toString m = toString n) : m = n := by
  have notMinus : ∀ k l : Nat, toString k ≠ "-" ++ toString l := by
    intro k l same
    apply Delimited.notMem_toString (show '-'.isDigit = false from rfl) k
    rw [same]
    simp
  cases m with
  | ofNat m =>
    cases n with
    | ofNat n => exact congrArg Int.ofNat (Delimited.eq_of_toString_eq same)
    | negSucc n => exact absurd same (notMinus m (n + 1))
  | negSucc m =>
    cases n with
    | ofNat n => exact absurd same.symm (notMinus n (m + 1))
    | negSucc n =>
      change "-" ++ toString (m + 1) = "-" ++ toString (n + 1) at same
      have numbers := Delimited.eq_of_toString_eq ((String.append_right_inj _).mp same)
      rw [Nat.succ.inj numbers]

/-- Scalars of one family other than floats have different texts. -/
theorem text_inj {s t : Scalar} (families : s.family = t.family) (exact : s.isFloat = false)
    (same : s.text = t.text) : s = t := by
  cases s with
  | bool a =>
    cases t with
    | bool b => cases a <;> cases b <;> simp_all [text, Inspect.flag]
    | _ => simp [family] at families
  | int a =>
    cases t with
    | int b => rw [Int64.toInt_inj.mp (toString_int_inj same)]
    | _ => simp [family] at families
  | uint a =>
    cases t with
    | uint b => rw [UInt64.toNat_inj.mp (Delimited.eq_of_toString_eq same)]
    | _ => simp [family] at families
  | float x => simp [isFloat] at exact

/-- Elements of an integer or truth-value type have different literals. -/
theorem Holds.literal_inj {s t : Scalar} {e : ElemType} {m n : Int} (left : s.Holds e m)
    (right : t.Holds e n) (same : s.literal e = t.literal e) : s = t := by
  have shown : ∀ {s : Scalar} {n : Int}, s.Holds e n → s.literal e = s.text := by
    intro s n holds
    have exact := holds.scalar_isFloat
    simp only [literal, holds.cast_self]
    cases s with
    | float x => simp [isFloat] at exact
    | _ => rfl
  rw [shown left, shown right] at same
  exact text_inj (left.family_eq.trans right.family_eq.symm) left.scalar_isFloat same

/-- What seeds an accumulator of an integer or truth-value type is an element of it. -/
theorem exists_seed_holds (s : Scalar) (e : ElemType) (exact : e.isFloat = false) :
    ∃ n, (s.seed e).Holds e n := by
  cases s with
  | bool b => exact exists_cast_holds _ e exact
  | int n => exact exists_cast_holds _ e exact
  | uint n => exact exists_cast_holds _ e exact
  | float x =>
    have casts : ∃ n, (if isIntegral x && !e.isFloat then (int (floatToInt64 x)).cast e
        else (float x).cast e).Holds e n := by
      split <;> exact exists_cast_holds _ e exact
    simp only [seed, clampedIdentity]
    cases infinite : x.isInf with
    | false => exact casts
    | true =>
      cases e with
      | f32 | f64 => simp [ElemType.isFloat, ElemType.family] at exact
      | _ =>
        by_cases positive : 0 < x <;>
          simp only [positive, ElemType.bounds, ElemType.family, if_true, if_false] <;>
          exact ⟨_, by decide, rfl, by decide⟩

end Scalar

/-! ## Literals of seeds -/

/-- The neutral elements of operators that accumulate floats. -/
theorem Primitive.mem_of_neutral (p : Primitive) (identity : Float)
    (hasNeutral : p.neutral = some identity) (notBitwise : p.isBitwise = false) :
    identity ∈ [(0 : Float), 1, -1 / 0, 1 / 0] := by
  cases p <;> simp_all [neutral, isBitwise]

/-- The seed of a reduction is found in its listing, whatever accumulator type it went through. -/
theorem Primitive.seed_inj (p : Primitive) (identity : Float)
    (hasNeutral : p.neutral = some identity) (e : ElemType)
    (allowed : (p.isBitwise && e.isFloat) = false) (accumulator other : ElemType)
    (same : (((Scalar.float identity).seed accumulator).seed e).literal e =
      (((Scalar.float identity).seed other).seed e).literal e) :
    ((Scalar.float identity).seed accumulator).seed e =
      ((Scalar.float identity).seed other).seed e := by
  cases kind : e.isFloat with
  | false =>
    obtain ⟨m, left⟩ := Scalar.exists_seed_holds ((Scalar.float identity).seed accumulator) e kind
    obtain ⟨n, right⟩ := Scalar.exists_seed_holds ((Scalar.float identity).seed other) e kind
    exact left.literal_inj right same
  | true =>
    have listed : ∀ d : ElemType, d ∈ ElemType.all := by
      intro d
      cases d <;> decide
    have isFloat : e ∈ [ElemType.f32, .f64] := by
      cases e <;> simp_all [ElemType.isFloat, ElemType.family]
    have table : ∀ identity ∈ [(0 : Float), 1, -1 / 0, 1 / 0], ∀ e ∈ [ElemType.f32, .f64],
        ∀ accumulator ∈ ElemType.all, ∀ other ∈ ElemType.all,
        (((Scalar.float identity).seed accumulator).seed e).literal e =
          (((Scalar.float identity).seed other).seed e).literal e →
        ((Scalar.float identity).seed accumulator).seed e =
          ((Scalar.float identity).seed other).seed e := by
      decide +kernel
    exact table identity (p.mem_of_neutral identity hasNeutral (by simpa [kind] using allowed)) e
      isFloat accumulator (listed _) other (listed _) same

end LoopKernels
