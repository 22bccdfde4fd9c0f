import LoopKernels.Kernel.Basic
import LoopKernels.Proofs.Text.Delimited

/-!
# What the heading of a kernel tells

The source of a kernel begins with its name, its family, its signature if it has one and
its options. Each of them is found in the text again: names hold no blank, a signature is
delimited by brackets, and the settings are delimited by blanks. What follows in the source
is the listing of the definition.

Kernels agree when their calls do: then they give the same values and refuse the same
arguments. Whether kernels with the same source agree is a question for each family.
-/

namespace LoopKernels

open Delimited (field_inj notMem_toString eq_of_toString_eq)

/-! ## Element types and signatures -/

namespace ElemType

/-- Element types have different names. -/
theorem name_inj {e d : ElemType} (same : e.name = d.name) : e = d := by
  have back : ∀ e : ElemType, all.find? (fun d => d.name == e.name) = some e := by
    intro e
    cases e <;> decide
  have found := back e
  rw [same, back d] at found
  exact (Option.some.inj found).symm

/-- Names of element types are made of letters and digits. -/
theorem notMem_name {mark : Char} (notWord : mark.isAlphanum = false) (e : ElemType) :
    mark ∉ e.name.toList := by
  have word : ∀ e : ElemType, e.name.toList.all Char.isAlphanum = true := by
    intro e
    cases e <;> decide
  intro listed
  simp [List.all_eq_true.mp (word e) mark listed] at notWord

end ElemType

namespace ArgType

/-- The text of an argument type ends with its bracket. -/
theorem text_append_inj {a b : ArgType} {r s : String} (same : a.text ++ r = b.text ++ s) :
    a = b ∧ r = s := by
  simp only [text, String.append_assoc] at same
  obtain ⟨elems, rest⟩ := field_inj '[' rfl (a.elem.notMem_name rfl)
    (b.elem.notMem_name rfl) same
  obtain ⟨ranks, tails⟩ := field_inj ']' rfl (notMem_toString rfl _)
    (notMem_toString rfl _) rest
  obtain ⟨elem, rank⟩ := a
  obtain rfl : elem = b.elem := ElemType.name_inj elems
  obtain rfl : rank = b.rank := eq_of_toString_eq ranks
  exact ⟨rfl, tails⟩

/-- A character that is no letter or digit and does not surround the rank is not in the text. -/
theorem notMem_text {mark : Char} (notWord : mark.isAlphanum = false)
    (outside : mark ∉ "[ndim=]".toList) (a : ArgType) : mark ∉ a.text.toList := by
  have notDigit : mark.isDigit = false := by
    simp only [Char.isAlphanum, Bool.or_eq_false_iff] at notWord
    exact notWord.2
  have name := a.elem.notMem_name notWord
  have rank := notMem_toString notDigit a.rank
  simp only [text, String.toList_append, List.mem_append, not_or]
  simp_all

end ArgType

namespace Signature

/-- Nothing closes the list of inputs before its end. -/
theorem notMem_inputs {mark : Char} (notWord : mark.isAlphanum = false)
    (outside : mark ∉ "[ndim=], ".toList) (s : Signature) :
    mark ∉ (Listing.commas (s.inputs.map ArgType.text)).toList := by
  apply Listing.notMem_commas
  · simp_all
  · simp only [List.forall_mem_map]
    intro a _
    exact a.notMem_text notWord (by simp_all)

/-- A signature is found in its text. -/
theorem text_inj {s t : Signature} (same : s.text = t.text) : s = t := by
  obtain ⟨inputs, output, scalar⟩ := s
  simp only [text, String.append_assoc, String.append_right_inj] at same
  obtain ⟨texts, rest⟩ := field_inj ')' rfl (notMem_inputs rfl (by decide) ⟨inputs, output, scalar⟩)
    (notMem_inputs rfl (by decide) t) same
  obtain ⟨rfl, forms⟩ := ArgType.text_append_inj rest
  have proper : ∀ args : List ArgType, ∀ entry ∈ args.map ArgType.text,
      entry ≠ "" ∧ ',' ∉ entry.toList := by
    simp only [List.forall_mem_map]
    intro args a _
    exact ⟨by simp [ArgType.text], a.notMem_text rfl (by decide)⟩
  have entries := Listing.commas_inj (proper inputs) (proper t.inputs) texts
  obtain rfl : inputs = t.inputs :=
    (List.map_inj_right fun a b shown => (ArgType.text_append_inj
      (show a.text ++ "" = b.text ++ "" by rw [shown])).1).mp entries
  have form_inj : ∀ scalar array : Bool, (if scalar then " as scalar" else "") =
      (if array then " as scalar" else "") → scalar = array := by decide
  rw [form_inj _ _ forms]

/-- The text of a signature is one line. -/
theorem oneLine_text (s : Signature) : '\n' ∉ s.text.toList := by
  have inputs : '\n' ∉ (Listing.commas (s.inputs.map ArgType.text)).toList :=
    notMem_inputs rfl (by decide) s
  have output : '\n' ∉ s.output.text.toList := s.output.notMem_text rfl (by decide)
  have form : '\n' ∉ (if s.outputScalar then " as scalar" else "").toList := by
    cases s.outputScalar <;> decide
  simp_all [text, Listing.commas]

end Signature

/-! ## Options -/

namespace Options

/-- The name of a level holds no blank and no line feed. -/
theorem notMem_level (level : OptLevel) : ' ' ∉ level.name.toList ∧ '\n' ∉ level.name.toList := by
  cases level <;> decide

/-- The text of a switch holds no blank and no line feed. -/
theorem notMem_switch (on : Bool) : ' ' ∉ (switch on).toList ∧ '\n' ∉ (switch on).toList := by
  cases on <;> decide

/-- The options are found in their text. -/
theorem text_inj {o p : Options} (same : o.text = p.text) : o = p := by
  unfold text at same
  simp only [String.append_assoc, String.append_right_inj] at same
  obtain ⟨levels, rest⟩ := field_inj ' ' rfl (notMem_level _).1 (notMem_level _).1 same
  obtain ⟨fastmath, rest⟩ := field_inj ' ' rfl (notMem_switch _).1 (notMem_switch _).1 rest
  obtain ⟨checks, inlines⟩ := field_inj ' ' rfl (notMem_switch _).1 (notMem_switch _).1 rest
  have switch_inj : ∀ on off : Bool, switch on = switch off → on = off := by decide
  have level_inj : ∀ l m : OptLevel, l.name = m.name → l = m := by
    intro l m
    cases l <;> cases m <;> decide
  have inlined_inj : ∀ on off : Bool, (if on then "always" else "never") =
      (if off then "always" else "never") → on = off := by decide
  cases o
  cases p
  rw [Options.mk.injEq]
  exact ⟨switch_inj _ _ checks, switch_inj _ _ fastmath, level_inj _ _ levels,
    inlined_inj _ _ inlines⟩

/-- The text of the options is one line. -/
theorem oneLine_text (o : Options) : '\n' ∉ o.text.toList := by
  have inlined : '\n' ∉ (if o.inlined then "always" else "never").toList := by
    cases o.inlined <;> decide
  unfold text
  simp [notMem_level, notMem_switch, inlined]

end Options

/-! ## The heading -/

/-- The name is one word, and the heading does not break. -/
structure Definition.PlainTitle (d : Definition) : Prop where
  noBlank : ' ' ∉ d.name.toList
  nameOneLine : '\n' ∉ d.name.toList
  labelOneLine : '\n' ∉ d.label.toList

/-- A text that begins with the listing of a kernel tells name, family, signature and options,
    and goes on with the listing of the definition. -/
theorem Kernel.heading_inj {k l : Kernel} {behind after : Listing}
    (plainK : k.definition.PlainTitle) (plainL : l.definition.PlainTitle)
    (same : (k.listing ++ behind).render = (l.listing ++ after).render) :
    k.name = l.name ∧ k.label = l.label ∧ k.signature = l.signature ∧ k.options = l.options ∧
      (k.definition.listing ++ behind).render = (l.definition.listing ++ after).render := by
  have titleOneLine : ∀ k : Kernel, k.definition.PlainTitle →
      '\n' ∉ ("// kernel: " ++ k.name ++ " (" ++ k.label ++ ")").toList := by
    intro k plain
    simp [Kernel.name, Kernel.label, plain.nameOneLine, plain.labelOneLine]
  have signatureOneLine : ∀ s : Signature, '\n' ∉ ("// signature: " ++ s.text).toList := by
    intro s
    simp [s.oneLine_text]
  have optionsOneLine : ∀ o : Options, '\n' ∉ ("// options: " ++ o.text).toList := by
    intro o
    simp [o.oneLine_text]
  simp only [listing, heading, List.append_assoc, List.singleton_append] at same
  obtain ⟨titles, rest⟩ :=
    Listing.render_cons_inj (titleOneLine k plainK) (titleOneLine l plainL) same
  simp only [String.append_assoc, String.append_right_inj] at titles
  obtain ⟨names, labels⟩ := field_inj ' ' rfl plainK.noBlank plainL.noBlank titles
  refine ⟨names, (String.append_left_inj _).mp labels, ?_⟩
  cases first : k.signature with
  | none =>
    cases second : l.signature with
    | none =>
      simp only [first, second] at rest
      obtain ⟨options, listings⟩ :=
        Listing.render_cons_inj (optionsOneLine _) (optionsOneLine _) rest
      exact ⟨rfl, Options.text_inj ((String.append_right_inj _).mp options), listings⟩
    | some t =>
      simp only [first, second] at rest
      have lines := (Listing.render_cons_inj (optionsOneLine _) (signatureOneLine _) rest).1
      simp [← String.toList_inj] at lines
  | some s =>
    cases second : l.signature with
    | none =>
      simp only [first, second] at rest
      have lines := (Listing.render_cons_inj (signatureOneLine _) (optionsOneLine _) rest).1
      simp [← String.toList_inj] at lines
    | some t =>
      simp only [first, second] at rest
      obtain ⟨signatures, rest⟩ :=
        Listing.render_cons_inj (signatureOneLine _) (signatureOneLine _) rest
      obtain ⟨options, listings⟩ :=
        Listing.render_cons_inj (optionsOneLine _) (optionsOneLine _) rest
      rw [Signature.text_inj ((String.append_right_inj _).mp signatures)]
      exact ⟨rfl, Options.text_inj ((String.append_right_inj _).mp options), listings⟩

/-- The source of a kernel tells all of its heading. -/
theorem Kernel.source_inj {k l : Kernel} (plainK : k.definition.PlainTitle)
    (plainL : l.definition.PlainTitle) (same : k.source = l.source) :
    k.name = l.name ∧ k.label = l.label ∧ k.signature = l.signature ∧ k.options = l.options ∧
      k.definition.listing.render = l.definition.listing.render := by
  have whole : (k.listing ++ []).render = (l.listing ++ []).render := by
    simpa [source] using same
  obtain ⟨names, labels, signatures, options, listings⟩ := heading_inj plainK plainL whole
  simp only [List.append_nil] at listings
  exact ⟨names, labels, signatures, options, listings⟩

/-! ## Agreement -/

/-- On every list of arrays, both give the same value or both give none. -/
def Kernel.Agrees (k l : Kernel) : Prop :=
  ∀ inputs : List Tensor, (∀ t ∈ inputs, t.Valid) →
    (k.call inputs).toOption = (l.call inputs).toOption

/-- Every kernel agrees with itself. -/
theorem Kernel.agrees_refl (k : Kernel) : k.Agrees k := fun _ _ => rfl

end LoopKernels
