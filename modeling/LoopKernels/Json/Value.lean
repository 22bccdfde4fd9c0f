import LoopKernels.Double.Dyadic

/-!
# JSON values

Stored nodes are JSON text. A value keeps its members in the order in which they
were written, repeated keys included, because what a repeated key means is for
the reader of the record to say. A number keeps the distinction its text makes:
an integer in the range of a 64-bit word, signed or not, or a double.

A text may follow the grammar and still denote nothing: a number beyond the
doubles, a string with half of a surrogate pair. Where such a text stands in a
member that nobody reads it does no harm, so it is kept as a value of its own.
A value is readable when it holds no such text and is not nested too deep.
-/

namespace LoopKernels

/-- A number as its text denotes it. -/
inductive JsonNumber where
  /-- An integer from 0 to 2^64 - 1. -/
  | natural (n : UInt64)
  /-- An integer from -2^63 to -1. -/
  | negative (n : Int64)
  /-- Every other number within the range of doubles, minus zero among them. -/
  | real (x : Float)
deriving DecidableEq, Repr

/-- A JSON value. A value that denotes nothing is told apart from null until it is decoded. -/
inductive Json where
  | null
  | bool (b : Bool)
  | num (n : JsonNumber)
  | str (s : String)
  | arr (items : List Json)
  | obj (members : List (String × Json))
  /-- A text that follows the grammar and denotes nothing. -/
  | noValue
deriving Repr

namespace Json

/-- A natural number, taken modulo the word. -/
def ofNat (n : Nat) : Json := num (.natural (UInt64.ofNat n))

/-- An integer within the 64-bit signed range. -/
def ofInt (n : Int) : Json :=
  if n < 0 then num (.negative (Int64.ofInt n)) else ofNat n.toNat

/-- An array whose entries are encoded one by one. -/
def list {α : Type} (encode : α → Json) (xs : List α) : Json := arr (xs.map encode)

/-- An absent value is written as null. -/
def option {α : Type} (encode : α → Json) : Option α → Json
  | none => null
  | some a => encode a

/-- Arrays and objects that are read may be nested this deep. -/
def nestingLimit : Nat := 127

mutual

/-- Everything in the value denotes something, and arrays and objects are nested at most
    as deep as the limit says. -/
def readable (limit : Nat) : Json → Bool
  | null | bool _ | num _ | str _ => true
  | arr items => limit != 0 && readableItems (limit - 1) items
  | obj members => limit != 0 && readableMembers (limit - 1) members
  | noValue => false
termination_by structural value => value

/-- No item is nested deeper than the limit. -/
def readableItems (limit : Nat) : List Json → Bool
  | [] => true
  | item :: rest => item.readable limit && readableItems limit rest
termination_by structural items => items

/-- No member is nested deeper than the limit. -/
def readableMembers (limit : Nat) : List (String × Json) → Bool
  | [] => true
  | entry :: rest => readableMember limit entry && readableMembers limit rest
termination_by structural members => members

/-- The value of a member is not nested deeper than the limit. -/
def readableMember (limit : Nat) : String × Json → Bool
  | (_, value) => value.readable limit
termination_by structural entry => entry

end

/-- The natural number a value denotes; no integer with a point or exponent counts. -/
def nat? : Json → Option Nat
  | num (.natural n) => some n.toNat
  | _ => none

/-- The integer of the 64-bit signed range a value denotes. -/
def int? : Json → Option Int
  | num (.natural n) => if n.toNat < Nat.pow 2 63 then some n.toNat else none
  | num (.negative n) => some n.toInt
  | _ => none

/-- The double a value denotes, of an integer the nearest one. -/
def float? : Json → Option Float
  | num (.natural n) => some n.toFloat
  | num (.negative n) => some (int64ToFloat n)
  | num (.real x) => some x
  | _ => none

/-- The flag that a value is. -/
def bool? : Json → Option Bool
  | bool b => some b
  | _ => none

/-- The string that a value is. -/
def str? : Json → Option String
  | str s => some s
  | _ => none

/-- The entries of an array, all of which must decode. -/
def list? {α : Type} (decode : Json → Option α) : Json → Option (List α)
  | arr items => items.mapM decode
  | _ => none

/-- Null for an absent value, or the value. -/
def option? {α : Type} (decode : Json → Option α) : Json → Option (Option α)
  | null => some none
  | value => (decode value).map some

end Json

end LoopKernels
