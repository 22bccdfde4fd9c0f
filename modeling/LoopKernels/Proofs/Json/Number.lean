import LoopKernels.Json.Token
import LoopKernels.Json.Writer
import LoopKernels.Proofs.Text.Delimited
import Mathlib.Data.List.TakeWhile

/-!
# Numbers and their texts

Writing a number and reading its text gives the number back for every integer of the
64-bit range. For doubles this is a property of the double: digits are gathered into a
word and scaled by a rounded power of ten, which need not meet the double that was
written. A double that is met is said to survive, and so is every other number.
-/

namespace LoopKernels.JsonNumber

/-- The text of the number denotes the number. -/
def survives (n : JsonNumber) : Bool := decide ((parts? n.text.toList).bind ofParts? = some n)

/-! ## Digits -/

/-- The digits of a number are all digits. -/
theorem all_toDigits (n : Nat) : ∀ c ∈ Nat.toDigits 10 n, c.isDigit = true := fun _ listed =>
  Nat.isDigit_of_mem_toDigits (by omega) (by omega) listed

/-- The digits of a number are the whole part of a number without fraction and exponent. -/
theorem parts?_toDigits (n : Nat) :
    parts? (Nat.toDigits 10 n) = some ⟨false, Nat.toDigits 10 n, none, none⟩ ∧
      parts? ('-' :: Nat.toDigits 10 n) = some ⟨true, Nat.toDigits 10 n, none, none⟩ := by
  have digits := all_toDigits n
  have whole : (Nat.toDigits 10 n).takeWhile Char.isDigit = Nat.toDigits 10 n :=
    List.takeWhile_eq_self_iff.mpr digits
  have rest : (Nat.toDigits 10 n).dropWhile Char.isDigit = [] :=
    List.dropWhile_eq_nil_iff.mpr digits
  have nonempty : Nat.toDigits 10 n ≠ [] := Nat.toDigits_ne_nil
  have leading : ¬ ((Nat.toDigits 10 n).head? = some '0' ∧ Nat.toDigits 10 n ≠ ['0']) := by
    rintro ⟨zero, several⟩
    by_cases positive : n = 0
    · exact several (by rw [positive, Nat.toDigits_zero])
    · exact Delimited.head?_toDigits n positive zero
  constructor
  · unfold parts?
    split
    rename_i minus unsigned signed
    split at signed
    · rename_i tail same
      have digit := digits '-' (by simp [same])
      exact absurd digit (by decide)
    · obtain ⟨rfl, rfl⟩ := Prod.mk.inj signed
      simp only [whole, rest, nonempty, leading, or_self, if_false, afterDigits?, Option.map_some]
  · simp only [parts?, whole, rest, nonempty, leading, or_self, if_false, afterDigits?,
      Option.map_some]

/-- Digits are gathered to the end when the number they make up fits a word. -/
theorem gather_eq (word : Nat) (digits : List Char)
    (bound : Nat.ofDigitChars 10 digits word < Nat.pow 2 64) :
    gather word digits = (Nat.ofDigitChars 10 digits word, digits.length) := by
  induction digits generalizing word with
  | nil => rfl
  | cons c digits inductionHypothesis =>
    rw [Nat.ofDigitChars_cons] at bound ⊢
    have grows : 10 * word + (c.toNat - 48) ≤
        Nat.ofDigitChars 10 digits (10 * word + (c.toNat - '0'.toNat)) := by
      rw [Nat.ofDigitChars_eq_ofDigitChars_zero]
      have positive : 1 ≤ 10 ^ digits.length := Nat.one_le_pow _ _ (by omega)
      have scaled := Nat.mul_le_mul_right (10 * word + (c.toNat - '0'.toNat)) positive
      have zero : '0'.toNat = 48 := rfl
      omega
    have fits : 10 * word + (c.toNat - 48) < Nat.pow 2 64 := Nat.lt_of_le_of_lt grows bound
    have rest := inductionHypothesis (10 * word + (c.toNat - 48)) bound
    simp only [gather, fits, if_true, rest, List.length_cons]
    rfl

/-- An integer whose magnitude fits a word is read from its sign and digits. -/
theorem ofParts?_toDigits (minus : Bool) (n : Nat) (bound : n < Nat.pow 2 64) :
    ofParts? ⟨minus, Nat.toDigits 10 n, none, none⟩ = some (integer minus n) := by
  have gathered := gather_eq 0 (Nat.toDigits 10 n) (by rwa [Nat.ofDigitChars_ten_toDigits])
  rw [Nat.ofDigitChars_ten_toDigits] at gathered
  simp only [ofParts?, gathered, Nat.sub_self, if_true]

/-- Every natural number is denoted by its text. -/
theorem natural_survives (n : UInt64) : (natural n).survives = true := by
  refine decide_eq_true ?_
  rw [text, Nat.toString_eq_ofList_toDigits, String.toList_ofList, (parts?_toDigits _).1,
    Option.bind_some, ofParts?_toDigits false n.toNat n.toNat_lt]
  simp [integer]

/-- Every negative number is denoted by its text. -/
theorem negative_survives (n : Int64) (below : n.toInt < 0) : (negative n).survives = true := by
  refine decide_eq_true ?_
  have least : -(2 : Int) ^ 63 ≤ n.toInt := n.le_toInt
  obtain ⟨m, same⟩ : ∃ m : Nat, n.toInt = Int.negSucc m := Int.eq_negSucc_of_lt_zero below
  have written : (negative n).text.toList = '-' :: Nat.toDigits 10 (m + 1) := by
    rw [text, same]
    show (String.toList ("-" ++ Nat.repr (m + 1))) = _
    simp [Nat.repr_eq_ofList_toDigits]
  have bound : m + 1 ≤ 2 ^ 63 := by omega
  rw [written, (parts?_toDigits _).2, Option.bind_some,
    ofParts?_toDigits true (m + 1) (Nat.lt_of_le_of_lt bound (by decide))]
  have inside : ¬ (m + 1 = 0 ∨ Nat.pow 2 63 < m + 1) := by
    simp only [Nat.pow_eq]
    omega
  have back : Int64.ofInt (-((m + 1 : Nat) : Int)) = n := by
    rw [show (-((m + 1 : Nat) : Int)) = n.toInt by omega, Int64.ofInt_toInt]
  simp only [integer, Bool.not_true, Bool.false_eq_true, if_false, inside, back]

-- Of two doubles with short texts, one survives and the other does not.
example : (real 0.1).survives = true ∧ (real 9.109e-31).survives = false := by decide +kernel

/-! ## The characters of a number -/

open JsonToken

/-- Digits are characters of numbers. -/
theorem isNumberChar_of_digit (c : Char) (digit : c.isDigit = true) : isNumberChar c = true := by
  simp [isNumberChar, digit]

/-- An exponent is written in characters of numbers. -/
theorem chars_of_exponent? (chars : List Char) (value : Int)
    (read : exponent? chars = some value) : ∀ c ∈ chars, isNumberChar c = true := by
  unfold exponent? at read
  split at read
  rename_i sign digits signed
  split at read
  · rename_i accepted
    have all : ∀ c ∈ digits, isNumberChar c = true := fun c listed =>
      isNumberChar_of_digit c (List.all_eq_true.mp accepted.2 c listed)
    split at signed <;> obtain ⟨rfl, rfl⟩ := Prod.mk.inj signed
    · exact List.forall_mem_cons.mpr ⟨by decide, all⟩
    · exact List.forall_mem_cons.mpr ⟨by decide, all⟩
    · exact all
  · simp at read

/-- What follows the digits of a number is written in characters of numbers. -/
theorem chars_of_afterDigits? (chars : List Char) (exponent : Option Int)
    (read : afterDigits? chars = some exponent) : ∀ c ∈ chars, isNumberChar c = true := by
  unfold afterDigits? at read
  split at read
  · simp
  · split at read
    · rename_i c rest mark
      obtain ⟨value, exponentRead, -⟩ := Option.map_eq_some_iff.mp read
      refine List.forall_mem_cons.mpr ⟨?_, chars_of_exponent? rest value exponentRead⟩
      rcases mark with rfl | rfl <;> decide
    · simp at read

/-- A text that is a number begins with a digit or a minus sign and goes on in characters of
    numbers. -/
theorem chars_of_parts? (chars : List Char) (p : Parts) (read : parts? chars = some p) :
    ∃ first rest, chars = first :: rest ∧ (first.isDigit = true ∨ first = '-') ∧
      ∀ c ∈ rest, isNumberChar c = true := by
  unfold parts? at read
  split at read
  rename_i minus unsigned signed
  dsimp only at read
  -- The unsigned part is a digit followed by digits, and what comes after them.
  split at read
  · simp at read
  · rename_i begun
    have leading : ∀ c ∈ unsigned.takeWhile Char.isDigit, c.isDigit = true := fun c listed =>
      List.mem_takeWhile_imp listed
    have behind : ∀ c ∈ unsigned.dropWhile Char.isDigit, isNumberChar c = true := by
      split at read
      · rename_i tail point
        split at read
        · simp at read
        · obtain ⟨exponent, after, -⟩ := Option.map_eq_some_iff.mp read
          have rest := chars_of_afterDigits? _ exponent after
          rw [point, List.forall_mem_cons]
          refine ⟨by decide, ?_⟩
          intro c listed
          rw [← List.takeWhile_append_dropWhile (p := Char.isDigit) (l := tail),
            List.mem_append] at listed
          rcases listed with fraction | after
          · exact isNumberChar_of_digit c (List.mem_takeWhile_imp fraction)
          · exact rest c after
      · obtain ⟨exponent, after, -⟩ := Option.map_eq_some_iff.mp read
        exact chars_of_afterDigits? _ exponent after
    have joined := List.takeWhile_append_dropWhile (p := Char.isDigit) (l := unsigned)
    obtain ⟨first, more, whole⟩ := List.exists_cons_of_ne_nil (not_or.mp begun).1
    rw [whole, List.forall_mem_cons] at leading
    rw [whole, List.cons_append] at joined
    have others : ∀ c ∈ more ++ unsigned.dropWhile Char.isDigit, isNumberChar c = true :=
      List.forall_mem_append.mpr
        ⟨fun c listed => isNumberChar_of_digit c (leading.2 c listed), behind⟩
    split at signed <;> obtain ⟨rfl, rfl⟩ := Prod.mk.inj signed
    · refine ⟨'-', _, rfl, .inr rfl, ?_⟩
      rw [← joined, List.forall_mem_cons]
      exact ⟨isNumberChar_of_digit first leading.1, others⟩
    · exact ⟨first, _, joined.symm, .inl leading.1, others⟩

end LoopKernels.JsonNumber
