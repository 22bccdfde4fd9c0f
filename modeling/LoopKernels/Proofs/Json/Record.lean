import LoopKernels.Json.Record
import LoopKernels.Proofs.Json.RoundTrip

/-!
# Encodings that are decoded again

A thing is stored as a JSON value that can be written and from which the decoder gets the
thing back. Both are said together, for one thing at a time, since a decoder need not
decode everything that can be encoded: a number that does not fit a word, or a double
that does not survive, is lost. Lists, optional values and records store what their parts
store.
-/

namespace LoopKernels

/-- A natural number that fits a 64-bit word. -/
def isWord (n : Nat) : Bool := n < Nat.pow 2 64

/-- An integer that fits a signed 64-bit word. -/
def isSignedWord (n : Int) : Bool := -(Nat.pow 2 63 : Int) ≤ n && n < (Nat.pow 2 63 : Int)

namespace Json

/-- The value of a thing can be written, and it is decoded to the thing. -/
structure Stores {α : Type} (keeps : Float → Bool) (encode : α → Json)
    (decode : Json → Option α) (a : α) : Prop where
  written : (encode a).Written keeps
  decodes : decode (encode a) = some a

variable (keeps : Float → Bool)

/-- A number that fits a word is stored. -/
theorem stores_nat (n : Nat) (word : isWord n = true) : Stores keeps ofNat nat? n := by
  have view : (UInt64.ofNat n).toNat = n := UInt64.toNat_ofNat_of_lt (of_decide_eq_true word)
  exact ⟨.natural _, by rw [ofNat, nat?, view]⟩

/-- An integer that fits a signed word is stored. -/
theorem stores_int (n : Int) (word : isSignedWord n = true) : Stores keeps ofInt int? n := by
  obtain ⟨least, greatest⟩ : -(2 : Int) ^ 63 ≤ n ∧ n < 2 ^ 63 := by
    simpa [isSignedWord] using word
  by_cases negative : n < 0
  · have view : (Int64.ofInt n).toInt = n := Int64.toInt_ofInt_of_le least greatest
    refine ⟨?_, ?_⟩
    · simp only [ofInt, negative, if_true]
      exact .negative _ (by rw [view]; exact negative)
    · simp [ofInt, negative, int?, view]
  · have small : n.toNat < Nat.pow 2 63 := by
      simp only [Nat.pow_eq]
      omega
    have view : (UInt64.ofNat n.toNat).toNat = n.toNat :=
      UInt64.toNat_ofNat_of_lt (Nat.lt_trans small (by decide))
    have whole : (n.toNat : Int) = n := by omega
    refine ⟨?_, ?_⟩
    · simp only [ofInt, negative, if_false]
      exact .natural _
    · simp only [ofInt, negative, if_false, ofNat, int?, view, small, if_true, whole]

/-- A flag is stored. -/
theorem stores_bool (b : Bool) : Stores keeps .bool bool? b := ⟨.bool b, rfl⟩

/-- Computations that all give a value give the list of the values. -/
theorem mapM_some {α β : Type} (f : α → Option β) (value : α → β) (xs : List α)
    (each : ∀ x ∈ xs, f x = some (value x)) : xs.mapM f = some (xs.map value) := by
  induction xs with
  | nil => rfl
  | cons x xs inductionHypothesis =>
    rw [List.forall_mem_cons] at each
    rw [List.mapM_cons, each.1, inductionHypothesis each.2]
    rfl

variable {keeps : Float → Bool} {α : Type} {encode : α → Json} {decode : Json → Option α}

/-- A list is stored when each entry is. -/
theorem stores_list (xs : List α) (each : ∀ x ∈ xs, Stores keeps encode decode x) :
    Stores keeps (list encode) (list? decode) xs := by
  refine ⟨.arr _ (List.forall_mem_map.mpr fun x member => (each x member).written), ?_⟩
  have decoded := mapM_some (decode ∘ encode) id xs fun x member => (each x member).decodes
  rw [list, list?, List.mapM_map, decoded, List.map_id]

/-- An optional value is stored where no value is written as null. -/
theorem stores_option (o : Option α) (proper : ∀ x, encode x ≠ .null)
    (each : ∀ x ∈ o, Stores keeps encode decode x) :
    Stores keeps (option encode) (option? decode) o := by
  cases o with
  | none => exact ⟨.null, rfl⟩
  | some x =>
    have stored := each x rfl
    refine ⟨stored.written, ?_⟩
    show option? decode (encode x) = some (some x)
    unfold option?
    split
    · rename_i null
      exact absurd null (proper x)
    · rw [stored.decodes, Option.map_some]

/-- An array is readable when each item is. -/
theorem readableItems_iff (limit : Nat) (items : List Json) :
    readableItems limit items = true ↔ ∀ item ∈ items, item.readable limit = true := by
  induction items with
  | nil => simp [readableItems]
  | cons item items inductionHypothesis => simp [readableItems, inductionHypothesis]

/-! ## Records -/

namespace Fields

/-- The value of a key that stands once is found. -/
theorem single?_of_mem (members : List (String × Json)) (distinct : (members.map Prod.fst).Nodup)
    (entry : String × Json) (member : entry ∈ members) :
    single? members entry.1 = some (some entry.2) := by
  have only : valuesOf entry.1 members = [entry.2] := by
    induction members with
    | nil => simp at member
    | cons first rest inductionHypothesis =>
      rw [List.map_cons, List.nodup_cons] at distinct
      rcases List.mem_cons.mp member with rfl | later
      · have others : rest.filter (fun other => other.1 == entry.1) = [] := by
          refine List.filter_eq_nil_iff.mpr ?_
          intro other listed same
          exact distinct.1 (List.mem_map.mpr ⟨other, listed, by simpa using same⟩)
        simp [valuesOf, others]
      · have apart : first.1 ≠ entry.1 := by
          intro same
          exact distinct.1 (same ▸ List.mem_map_of_mem later)
        have rest := inductionHypothesis distinct.2 later
        simpa [valuesOf, apart] using rest
  simp [single?, only]

/-- The fields of a record with distinct keys are its values in order. -/
theorem read?_named (members : List (String × Json)) (distinct : (members.map Prod.fst).Nodup) :
    read? (members.map Prod.fst) (.named members) =
      some (members.map fun entry => some entry.2) := by
  rw [read?, List.mapM_map]
  exact mapM_some _ _ members fun entry member => single?_of_mem members distinct entry member

end Fields

/-- The fields of an object with distinct keys are its values in order. -/
theorem fields?_obj (members : List (String × Json)) (distinct : (members.map Prod.fst).Nodup) :
    (obj members).fields? (members.map Prod.fst) = some (members.map fun entry => some entry.2) :=
  Fields.read?_named members distinct

end Json

end LoopKernels
