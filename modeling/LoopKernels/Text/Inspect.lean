import LoopKernels.Text.Hidden

/-!
# Values as they appear in messages

Messages show lists in brackets, optional values by name, and names in quotes
with the characters escaped that would not print.
-/

namespace LoopKernels.Inspect

/-- A list in brackets, its entries separated by commas. -/
def list {α : Type} (entry : α → String) (xs : List α) : String :=
  "[" ++ String.intercalate ", " (xs.map entry) ++ "]"

/-- A number in decimal. -/
def nat (n : Nat) : String := toString n

/-- A list of lengths or axes. -/
def nats (xs : List Nat) : String := list nat xs

/-- An optional value, named as present or absent. -/
def option {α : Type} (entry : α → String) : Option α → String
  | none => "None"
  | some a => "Some(" ++ entry a ++ ")"

/-- Lower-case hexadecimal digits without leading zeros. -/
def hex (n : Nat) : String := String.ofList (Nat.toDigits 16 n)

/-- Sixteen lower-case hexadecimal digits of a word. -/
def hex16 (n : UInt64) : String :=
  let digits := Nat.toDigits 16 n.toNat
  String.ofList (List.replicate (16 - digits.length) '0' ++ digits)

/-- One character of a quoted text. -/
def quotedChar (c : Char) : String :=
  if c = '"' then "\\\""
  else if c = '\\' then "\\\\"
  else if c = '\n' then "\\n"
  else if c = '\r' then "\\r"
  else if c = '\t' then "\\t"
  else if c.toNat = 0 then "\\0"
  else if isHiddenChar c then "\\u\x7b" ++ hex c.toNat ++ "\x7d"
  else c.toString

/-- A text in double quotes. -/
def quoted (text : String) : String :=
  "\"" ++ String.join (text.toList.map quotedChar) ++ "\""

/-- A flag in words. -/
def flag (b : Bool) : String := if b then "true" else "false"

end LoopKernels.Inspect
