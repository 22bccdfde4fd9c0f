import LoopKernels.Json.Value

/-!
# Reading JSON numbers

The text of a number is a sign, a whole part without leading zeros, an optional
fraction and an optional exponent. Integers in the range of a word are exact.
For every other number the digits are gathered into one 64-bit word as long as
they fit, that word becomes a double, and the double is scaled by a power of
ten: one multiplication or division when the power is at most 308.
-/

namespace LoopKernels.JsonNumber

/-- The parts of a number's text. -/
structure Parts where
  minus : Bool
  whole : List Char
  fraction : Option (List Char)
  exponent : Option Int

/-- The exponent part after its mark: an optional sign and at least one digit. -/
def exponent? (chars : List Char) : Option Int :=
  let (sign, digits) := match chars with
    | '+' :: rest => (1, rest)
    | '-' :: rest => (-1, rest)
    | rest => ((1 : Int), rest)
  if digits ≠ [] ∧ digits.all Char.isDigit then
    some (sign * (digits.foldl (fun n c => 10 * n + (c.toNat - 48)) 0 : Nat))
  else none

/-- What follows the whole part or the fraction: nothing, or an exponent. -/
def afterDigits? (chars : List Char) : Option (Option Int) :=
  match chars with
  | [] => some none
  | c :: rest => if c = 'e' ∨ c = 'E' then (exponent? rest).map some else none

/-- Splits the text of a number; a text that is no number has no parts. -/
def parts? (chars : List Char) : Option Parts :=
  let (minus, unsigned) := match chars with
    | '-' :: rest => (true, rest)
    | rest => (false, rest)
  let whole := unsigned.takeWhile Char.isDigit
  let rest := unsigned.dropWhile Char.isDigit
  if whole = [] ∨ (whole.head? = some '0' ∧ whole ≠ ['0']) then none
  else match rest with
    | '.' :: tail =>
      let fraction := tail.takeWhile Char.isDigit
      if fraction = [] then none
      else (afterDigits? (tail.dropWhile Char.isDigit)).map fun exponent =>
        ⟨minus, whole, some fraction, exponent⟩
    | _ => (afterDigits? rest).map fun exponent => ⟨minus, whole, none, exponent⟩

/-- Appends digits to a word as long as the word does not overflow; the second
    component counts the digits appended. -/
def gather (word : Nat) : List Char → Nat × Nat
  | [] => (word, 0)
  | c :: rest =>
    let next := 10 * word + (c.toNat - 48)
    if next < Nat.pow 2 64 then
      let (final, count) := gather next rest
      (final, count + 1)
    else (word, 0)

/-- Ten to a power of at most 308, rounded to a double. -/
def powerOfTen (n : Nat) : Float := Float.ofScientific 1 false n

/-- A non-negative double times a power of ten, nothing when the product leaves
    the doubles. A power below -308 is divided out in portions; two portions take
    every word to zero. -/
def scale : Nat → Float → Int → Option Float
  | 0, _, _ => some 0
  | portions + 1, x, power =>
    if x == 0 then some x
    else if 308 < power then none
    else if 0 ≤ power then
      let product := x * powerOfTen power.toNat
      if product.isInf then none else some product
    else if -308 ≤ power then some (x / powerOfTen (-power).toNat)
    else scale portions (x / powerOfTen 308) (power + 308)

/-- The double for digits and a power of ten; there is none beyond the doubles. -/
def ofDigits? (minus : Bool) (word : Nat) (power : Int) : Option JsonNumber :=
  (scale 4 (UInt64.ofNat word).toFloat power).map fun x => real (if minus then -x else x)

/-- The integer for a sign and a word: minus zero and integers below the signed
    range are doubles. -/
def integer (minus : Bool) (word : Nat) : JsonNumber :=
  if !minus then natural (UInt64.ofNat word)
  else if word = 0 ∨ Nat.pow 2 63 < word then real (-(UInt64.ofNat word).toFloat)
  else negative (Int64.ofInt (-(word : Int)))

/-- The number with the given parts; there is none beyond the doubles. -/
def ofParts? (p : Parts) : Option JsonNumber :=
  let (whole, used) := gather 0 p.whole
  let dropped := p.whole.length - used
  match p.fraction, p.exponent with
  | none, none =>
    if dropped = 0 then some (integer p.minus whole) else ofDigits? p.minus whole dropped
  | fraction, exponent =>
    let (word, places) := gather whole (fraction.getD [])
    ofDigits? p.minus word ((dropped : Int) - places + exponent.getD 0)

end LoopKernels.JsonNumber
