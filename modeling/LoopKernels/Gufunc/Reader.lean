import LoopKernels.Gufunc.Signature
import LoopKernels.Text.Pattern

/-!
# Reading core signatures

White space is dropped wherever it stands. What is left must match the pattern of a
signature as a whole. It is then split at its first arrow, and each side is searched
twice: for its operands, and each of them for its names. An operand may be without
names, and a signature may be without inputs, but not without outputs.
-/

namespace LoopKernels.CoreSignature

section Patterns

variable (classes : CharClasses)

/-- A name. -/
def namePattern : Pattern := .some (.one classes.word)

/-- Names in parentheses, with commas between them. -/
def operandPattern : Pattern :=
  .seq (.char '(') (.seq (.optional (.separated ',' (namePattern classes))) (.char ')'))

/-- Operands with commas between them. -/
def sidePattern : Pattern := .separated ',' (operandPattern classes)

/-- Two sides and an arrow; the first side may be missing. -/
def signaturePattern : Pattern :=
  .seq (.optional (sidePattern classes))
    (.seq (.char '-') (.seq (.char '>') (sidePattern classes)))

/-- White space. -/
def blankPattern : Pattern := .some (.one classes.blank)

end Patterns

/-- The text in front of the first arrow and the text behind it. -/
def splitArrow? : List Char → Option (List Char × List Char)
  | '-' :: '>' :: rest => some ([], rest)
  | c :: rest => (splitArrow? rest).map fun (front, back) => (c :: front, back)
  | [] => none

/-- The names found in a text. -/
def scanNames (classes : CharClasses) (text : List Char) : List String :=
  ((namePattern classes).findAll text).map String.ofList

/-- The operands found in a text, each with its names. -/
def scanSide (classes : CharClasses) (text : List Char) : List (List String) :=
  ((operandPattern classes).findAll text).map (scanNames classes)

/-- Reads a signature; a text that is none is refused as it was given. -/
def readWith (classes : CharClasses) (text : String) : Except SignatureError CoreSignature :=
  let compact := (blankPattern classes).remove text.toList
  if (signaturePattern classes).matchesAll compact then
    match splitArrow? compact with
    | some (inputs, outputs) => .ok ⟨scanSide classes inputs, scanSide classes outputs⟩
    | none => .error (.format text)
  else .error (.format text)

/-- Reads a signature whose names are words of Unicode. -/
def read (text : String) : Except SignatureError CoreSignature := readWith .unicode text

end LoopKernels.CoreSignature
