import LoopKernels.Text.Listing

/-!
# Reading delimited text back

A text made of fields with delimiters between them determines its fields as long as no
field holds the character at which the delimiter begins: reading from the left, that
character ends the field. Reading from the right, the last character of the delimiter does.

Listings are delimited by line feeds, so that the text of a listing determines its first
line and the text of the others. Entries between commas are delimited by the commas.
-/

namespace LoopKernels

/-! ## Fields -/

namespace Delimited

variable {mark : Char} {a b r s delimiter : String}

/-- What stands before the first mark, and what stands behind it. -/
theorem eq_of_first_mark {before behind front back : List Char} (outsideBefore : mark ∉ before)
    (outsideFront : mark ∉ front) (same : before ++ mark :: behind = front ++ mark :: back) :
    before = front ∧ behind = back := by
  induction before generalizing front with
  | nil =>
    cases front with
    | nil => simpa using same
    | cons c front =>
      obtain ⟨rfl, -⟩ := List.cons.inj same
      simp at outsideFront
  | cons c before inductionHypothesis =>
    cases front with
    | nil =>
      obtain ⟨rfl, -⟩ := List.cons.inj same
      simp at outsideBefore
    | cons d front =>
      obtain ⟨rfl, rest⟩ := List.cons.inj same
      rw [List.mem_cons, not_or] at outsideBefore outsideFront
      obtain ⟨rfl, behindEq⟩ := inductionHypothesis outsideBefore.2 outsideFront.2 rest
      exact ⟨rfl, behindEq⟩

/-- A field ends where its delimiter begins. -/
theorem field_inj (mark : Char) (opens : delimiter.toList.head? = some mark)
    (outsideA : mark ∉ a.toList) (outsideB : mark ∉ b.toList)
    (same : a ++ (delimiter ++ r) = b ++ (delimiter ++ s)) :
    a = b ∧ r = s := by
  obtain ⟨tail, spelled⟩ := List.head?_eq_some_iff.mp opens
  have chars : a.toList ++ mark :: (tail ++ r.toList) = b.toList ++ mark :: (tail ++ s.toList) := by
    simpa [spelled] using congrArg String.toList same
  obtain ⟨fields, rests⟩ := eq_of_first_mark outsideA outsideB chars
  exact ⟨String.toList_inj.mp fields, String.toList_inj.mp (List.append_cancel_left rests)⟩

/-- The last field begins where the delimiter in front of it ends. -/
theorem last_field_inj (mark : Char) (closes : delimiter.toList.getLast? = some mark)
    (outsideR : mark ∉ r.toList) (outsideS : mark ∉ s.toList)
    (same : a ++ (delimiter ++ r) = b ++ (delimiter ++ s)) : a = b ∧ r = s := by
  obtain ⟨front, spelled⟩ := List.getLast?_eq_some_iff.mp closes
  have chars : r.toList.reverse ++ mark :: (front.reverse ++ a.toList.reverse) =
      s.toList.reverse ++ mark :: (front.reverse ++ b.toList.reverse) := by
    simpa [spelled] using congrArg (fun text => text.toList.reverse) same
  obtain ⟨fields, rests⟩ :=
    eq_of_first_mark (by simpa using outsideR) (by simpa using outsideS) chars
  exact ⟨String.toList_inj.mp (by simpa using rests), String.toList_inj.mp (by simpa using fields)⟩

/-- What holds of the characters of the entries and of the delimiter holds of the text of all. -/
theorem forall_mem_intercalate (holds : Char → Prop) (entries : List String)
    (between : ∀ c ∈ delimiter.toList, holds c)
    (each : ∀ entry ∈ entries, ∀ c ∈ entry.toList, holds c) :
    ∀ c ∈ (delimiter.intercalate entries).toList, holds c := by
  induction entries with
  | nil => simp
  | cons entry entries inductionHypothesis =>
    rw [List.forall_mem_cons] at each
    have later := inductionHypothesis each.2
    cases entries with
    | nil => simpa using each.1
    | cons next entries =>
      rw [String.intercalate_cons_cons, String.toList_append, String.toList_append,
        List.forall_mem_append, List.forall_mem_append]
      exact ⟨⟨each.1, between⟩, later⟩

/-- A character that neither the entries nor the delimiter hold is not in the text of all. -/
theorem notMem_intercalate (notDelimiter : mark ∉ delimiter.toList) (entries : List String)
    (outside : ∀ entry ∈ entries, mark ∉ entry.toList) :
    mark ∉ (delimiter.intercalate entries).toList := fun listed =>
  forall_mem_intercalate (· ≠ mark) entries (fun _ inside same => notDelimiter (same ▸ inside))
    (fun entry member _ inside same => outside entry member (same ▸ inside)) mark listed rfl

/-- A number holds nothing but digits. -/
theorem notMem_toDigits (notDigit : mark.isDigit = false) (n : Nat) : mark ∉ Nat.toDigits 10 n := by
  intro listed
  simp [Nat.isDigit_of_mem_toDigits (by omega) (by omega) listed] at notDigit

/-- The text of a number holds digits only. -/
theorem notMem_toString (notDigit : mark.isDigit = false) (n : Nat) :
    mark ∉ (toString n).toList := by
  rw [Nat.toString_eq_ofList_toDigits, String.toList_ofList]
  exact notMem_toDigits notDigit n

/-- The digits of a number other than zero do not begin with a zero. -/
theorem head?_toDigits (n : Nat) (positive : n ≠ 0) : (Nat.toDigits 10 n).head? ≠ some '0' := by
  induction n using Nat.strongRecOn with
  | ind n inductionHypothesis =>
    by_cases small : n < 10
    · have table : ∀ digit < 10, digit ≠ 0 → [Nat.digitChar digit].head? ≠ some '0' := by decide
      rw [Nat.toDigits_of_lt_base small]
      exact table n small positive
    · have shorter := inductionHypothesis (n / 10) (by omega) (by omega)
      rw [Nat.toDigits_of_base_le (by omega) (by omega), List.head?_append]
      cases first : (Nat.toDigits 10 (n / 10)).head? with
      | none => simp at first
      | some c => simpa [first] using shorter

/-- Different numbers have different digits. -/
theorem eq_of_toDigits_eq {m n : Nat} (same : Nat.toDigits 10 m = Nat.toDigits 10 n) : m = n := by
  have numbers := congrArg (Nat.ofDigitChars 10 · 0) same
  simpa using numbers

/-- A number is found in its text. -/
theorem eq_of_toString_eq {m n : Nat} (same : toString m = toString n) : m = n :=
  eq_of_toDigits_eq (by simpa using congrArg String.toList same)

end Delimited

/-! ## Listings -/

namespace Listing

variable {a b : String} {rest others : Listing}

/-- The first line is rendered first. -/
theorem render_cons (line : Line) (rest : Listing) :
    render (line :: rest) = line.render ++ render rest := by
  simp [render, String.join_cons]

/-- Joined listings are rendered one after the other. -/
theorem render_append (first second : Listing) :
    render (first ++ second) = render first ++ render second := by
  simp [render, String.join_append]

/-- The text of a listing determines its first line, whose depth is known, and the text of the
    others. -/
theorem render_cons_inj {depth : Nat} (oneLineA : '\n' ∉ a.toList) (oneLineB : '\n' ∉ b.toList)
    (same : render (⟨depth, a⟩ :: rest) = render (⟨depth, b⟩ :: others)) :
    a = b ∧ render rest = render others := by
  simp only [render_cons, Line.render, String.append_assoc, String.append_right_inj] at same
  exact Delimited.field_inj '\n' rfl oneLineA oneLineB same

/-- What two listings have in common in front may be left out. -/
theorem render_append_inj {front : Listing}
    (same : render (front ++ rest) = render (front ++ others)) : render rest = render others := by
  simpa only [render_append, String.append_right_inj] using same

/-- A function begins with its heading. -/
theorem head?_function {first : Char} (heading : String) (body : Listing)
    (opens : heading.toList.head? = some first) :
    (function heading body).render.toList.head? = some first := by
  obtain ⟨rest, spelled⟩ := List.head?_eq_some_iff.mp opens
  unfold function
  rw [List.append_assoc, List.singleton_append, render_cons]
  simp [Line.render, Line.margin, spelled]

/-- Without line feeds there is one line. -/
theorem splitLines_oneLine (chars : List Char) (oneLine : '\n' ∉ chars) :
    splitLines chars = [chars] := by
  induction chars with
  | nil => rfl
  | cons c chars inductionHypothesis =>
    rw [List.mem_cons, not_or] at oneLine
    obtain ⟨notFeed, oneLine⟩ := oneLine
    simp [splitLines, Ne.symm notFeed, inductionHypothesis oneLine]

/-- A text without line feeds and blanks in front is a block of one line. -/
theorem block_oneLine (depth : Nat) (text : String) (first : Char)
    (opens : text.toList.head? = some first) (notBlank : isBlankChar first = false)
    (oneLine : '\n' ∉ text.toList) : block depth text = [⟨depth, text⟩] := by
  obtain ⟨rest, spelled⟩ := List.head?_eq_some_iff.mp opens
  have visible : isBlankLine text.toList = false := by simp [isBlankLine, spelled, notBlank]
  have notIndented : indentation text.toList = 0 := by
    have notSpace : (first == ' ' || first == '\t') = false := by
      rw [Bool.or_eq_false_iff, beq_eq_false_iff_ne, beq_eq_false_iff_ne]
      constructor <;> rintro rfl <;> simp [isBlankChar, blankRanges] at notBlank
    simp [indentation, spelled, notSpace]
  simp [block, splitLines_oneLine _ oneLine, trimLines, dropBlankHead, visible, sharedIndentation,
    notIndented]

/-- A character that no entry holds and that separates none is not between commas. -/
theorem notMem_commas {mark : Char} (notSeparator : mark ∉ ", ".toList) (entries : List String)
    (outside : ∀ entry ∈ entries, mark ∉ entry.toList) : mark ∉ (commas entries).toList :=
  Delimited.notMem_intercalate notSeparator entries outside

/-- Numbers between commas are written on one line. -/
theorem oneLine_numbers (numbers : List Nat) :
    '\n' ∉ (commas (numbers.map toString)).toList :=
  notMem_commas (by decide) _ (by simp [Delimited.notMem_toDigits])

/-- A comma stands behind the first entry. -/
theorem commas_cons_cons (entry next : String) (entries : List String) :
    commas (entry :: next :: entries) = entry ++ (", " ++ commas (next :: entries)) := by
  rw [commas, String.intercalate_cons_cons, String.append_assoc, commas]

/-- Between two entries stands a comma. -/
theorem comma_mem_commas (entry next : String) (entries : List String) :
    ',' ∈ (commas (entry :: next :: entries)).toList := by
  simp [commas_cons_cons]

/-- A list with a proper first entry has a proper text. -/
theorem commas_ne_empty {entry : String} (nonempty : entry ≠ "") (entries : List String) :
    commas (entry :: entries) ≠ "" := by
  cases entries with
  | nil => simpa [commas] using nonempty
  | cons next entries =>
    intro empty
    have comma := comma_mem_commas entry next entries
    simp [empty] at comma

/-- Entries that are not empty and hold no comma are found between the commas. -/
theorem commas_inj {entries others : List String}
    (proper : ∀ entry ∈ entries, entry ≠ "" ∧ ',' ∉ entry.toList)
    (properOthers : ∀ entry ∈ others, entry ≠ "" ∧ ',' ∉ entry.toList)
    (same : commas entries = commas others) : entries = others := by
  induction entries generalizing others with
  | nil =>
    cases others with
    | nil => rfl
    | cons other others =>
      exact absurd same.symm (commas_ne_empty (properOthers other (by simp)).1 _)
  | cons entry entries inductionHypothesis =>
    cases others with
    | nil => exact absurd same (commas_ne_empty (proper entry (by simp)).1 _)
    | cons other others =>
      rw [List.forall_mem_cons] at proper properOthers
      cases entries with
      | nil =>
        cases others with
        | nil => simpa [commas] using same
        | cons next others =>
          have comma := comma_mem_commas other next others
          rw [← same] at comma
          simp [commas, proper.1.2] at comma
      | cons next entries =>
        cases others with
        | nil =>
          have comma := comma_mem_commas entry next entries
          rw [same] at comma
          simp [commas, properOthers.1.2] at comma
        | cons following others =>
          rw [commas_cons_cons, commas_cons_cons] at same
          obtain ⟨rfl, later⟩ := Delimited.field_inj ',' rfl proper.1.2 properOthers.1.2 same
          rw [inductionHypothesis proper.2 properOthers.2 later]

/-- Numbers between commas are found. -/
theorem eq_of_commas_numbers {numbers others : List Nat}
    (same : commas (numbers.map toString) = commas (others.map toString)) : numbers = others := by
  have proper : ∀ list : List Nat, ∀ entry ∈ list.map toString,
      entry ≠ "" ∧ ',' ∉ entry.toList := by
    intro list entry listed
    obtain ⟨n, -, rfl⟩ := List.mem_map.mp listed
    exact ⟨by simp, Delimited.notMem_toString rfl n⟩
  have texts := commas_inj (proper numbers) (proper others) same
  exact (List.map_inj_right fun _ _ => Delimited.eq_of_toString_eq).mp texts

end Listing

end LoopKernels
