import LoopKernels.Json.Reader
import LoopKernels.Decimal.Layout
import LoopKernels.Text.Inspect

/-!
# Writing JSON

Two forms: compact without any blank, and indented by two blanks a level with
one entry a line. A double is written with the fewest digits that read back;
NaN and the infinities, which JSON lacks, are written as null, and so is a
value that denotes nothing. A format pairs a way of writing with the way of
reading that goes with it.
-/

namespace LoopKernels

/-- Doubles in stored text: positional while the leading digit stands between
    10^-5 and 10^15, otherwise with a signed exponent. -/
def storedFloat : FloatLayout where
  tie := .toEven
  isPositional := fun exponent => -5 ≤ exponent && exponent ≤ 15

/-- The text of a number; a double that JSON lacks is written as null. -/
def JsonNumber.text : JsonNumber → String
  | natural n => toString n.toNat
  | negative n => toString n.toInt
  | real x => if x.isFinite then storedFloat.text x else "null"

namespace Json

/-- One character of a string, escaped where the format demands it. -/
def stringChar (c : Char) : String :=
  if c = '"' then "\\\""
  else if c = '\\' then "\\\\"
  else if c = '\n' then "\\n"
  else if c = '\r' then "\\r"
  else if c = '\t' then "\\t"
  else if c.toNat = 8 then "\\b"
  else if c.toNat = 12 then "\\f"
  else if c.toNat < 16 then "\\u000" ++ Inspect.hex c.toNat
  else if c.toNat < 32 then "\\u00" ++ Inspect.hex c.toNat
  else c.toString

/-- A string between quotes. -/
def stringText (s : String) : String := "\"" ++ String.join (s.toList.map stringChar) ++ "\""

mutual

/-- The text of a value without blanks. -/
def compact : Json → String
  | null | noValue => "null"
  | bool b => Inspect.flag b
  | num n => n.text
  | str s => stringText s
  | arr items => "[" ++ String.intercalate "," (compactItems items) ++ "]"
  | obj members => "\x7b" ++ String.intercalate "," (compactMembers members) ++ "\x7d"
termination_by structural value => value

/-- The texts of the items, without blanks. -/
def compactItems : List Json → List String
  | [] => []
  | item :: rest => item.compact :: compactItems rest
termination_by structural items => items

/-- The texts of the members, without blanks. -/
def compactMembers : List (String × Json) → List String
  | [] => []
  | entry :: rest => compactMember entry :: compactMembers rest
termination_by structural members => members

/-- A key, a colon and a value, without blanks. -/
def compactMember : String × Json → String
  | (key, value) => stringText key ++ ":" ++ value.compact
termination_by structural entry => entry

end

/-- The blanks in front of a line at a level. -/
def indentation (level : Nat) : String := "".pushn ' ' (2 * level)

/-- Lines of an array or object between its brackets; nothing stands between
    the brackets of an empty one. -/
def bracketed (opening closing : String) (level : Nat) (entries : List String) : String :=
  if entries.isEmpty then opening ++ closing
  else
    let line := "\n" ++ indentation (level + 1)
    opening ++ line ++ String.intercalate ("," ++ line) entries ++ "\n" ++ indentation level ++
      closing

mutual

/-- The indented text of a value that starts at a level. -/
def indented (level : Nat) : Json → String
  | null | noValue => "null"
  | bool b => Inspect.flag b
  | num n => n.text
  | str s => stringText s
  | arr items => bracketed "[" "]" level (indentedItems (level + 1) items)
  | obj members => bracketed "\x7b" "\x7d" level (indentedMembers (level + 1) members)
termination_by structural value => value

/-- The indented texts of the items. -/
def indentedItems (level : Nat) : List Json → List String
  | [] => []
  | item :: rest => item.indented level :: indentedItems level rest
termination_by structural items => items

/-- The indented texts of the members. -/
def indentedMembers (level : Nat) : List (String × Json) → List String
  | [] => []
  | entry :: rest => indentedMember level entry :: indentedMembers level rest
termination_by structural members => members

/-- A key, a colon, a blank and an indented value. -/
def indentedMember (level : Nat) : String × Json → String
  | (key, value) => stringText key ++ ": " ++ value.indented level
termination_by structural entry => entry

end

/-- The text of a value with one entry a line. -/
def pretty (value : Json) : String := value.indented 0

/-- A way of writing values, with the way of reading what was written. -/
structure Format where
  write : Json → String
  read? : String → Option Json

namespace Format

/-- One entry a line. -/
def lines : Format := ⟨pretty, Json.read?⟩

/-- No blanks. -/
def dense : Format := ⟨compact, Json.read?⟩

end Format

end Json

end LoopKernels
