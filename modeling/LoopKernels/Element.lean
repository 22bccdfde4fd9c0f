/-!
# Element types

Every array and every kernel argument has one of eleven element types. A type
belongs to a family, which decides how its elements are held (one wide
representation per family), and has a width, which decides where integers wrap.
Two types promote to the smallest type that holds the values of both.
-/

namespace LoopKernels

/-- How elements are held: as truth values, as 64-bit signed or unsigned words,
    or as doubles. -/
inductive Family where
  | bool
  | signed
  | unsigned
  | float
deriving DecidableEq, Repr

/-- The capitalised name of a family. -/
def Family.title : Family → String
  | bool => "Bool"
  | signed => "Signed"
  | unsigned => "Unsigned"
  | float => "Float"

/-- The element types, in their listing order. -/
inductive ElemType where
  | bool
  | i8
  | i16
  | i32
  | i64
  | u8
  | u16
  | u32
  | u64
  | f32
  | f64
deriving DecidableEq, Repr

namespace ElemType

/-- All element types in listing order. -/
def all : List ElemType := [bool, i8, i16, i32, i64, u8, u16, u32, u64, f32, f64]

/-- The family to which an element type belongs. -/
def family : ElemType → Family
  | bool => .bool
  | i8 | i16 | i32 | i64 => .signed
  | u8 | u16 | u32 | u64 => .unsigned
  | f32 | f64 => .float

/-- A float of either width. -/
def isFloat (e : ElemType) : Bool := e.family == .float

/-- A signed integer of any width. -/
def isSigned (e : ElemType) : Bool := e.family == .signed

/-- An unsigned integer of any width. -/
def isUnsigned (e : ElemType) : Bool := e.family == .unsigned

/-- Signed and unsigned integers; truth values are not counted. -/
def isInteger (e : ElemType) : Bool := e.isSigned || e.isUnsigned

/-- Bits of one element. -/
def width : ElemType → Nat
  | bool => 1
  | i8 | u8 => 8
  | i16 | u16 => 16
  | i32 | u32 | f32 => 32
  | i64 | u64 | f64 => 64

/-- Least and greatest value of an integer or truth-value type; a float type has none. -/
def bounds (e : ElemType) : Option (Int × Int) :=
  match e.family with
  | .bool => some (0, 1)
  | .signed => some (-(Nat.pow 2 (e.width - 1) : Int), (Nat.pow 2 (e.width - 1) : Int) - 1)
  | .unsigned => some (0, (Nat.pow 2 e.width : Int) - 1)
  | .float => none

/-- The long name, used in listings and messages. -/
def name : ElemType → String
  | bool => "bool"
  | i8 => "int8"
  | i16 => "int16"
  | i32 => "int32"
  | i64 => "int64"
  | u8 => "uint8"
  | u16 => "uint16"
  | u32 => "uint32"
  | u64 => "uint64"
  | f32 => "float32"
  | f64 => "float64"

/-- The short code, used where nodes are stored. -/
def code : ElemType → String
  | bool => "bool"
  | i8 => "i8"
  | i16 => "i16"
  | i32 => "i32"
  | i64 => "i64"
  | u8 => "u8"
  | u16 => "u16"
  | u32 => "u32"
  | u64 => "u64"
  | f32 => "f32"
  | f64 => "f64"

/-- The capitalised short code, used where values are inspected. -/
def title : ElemType → String
  | bool => "Bool"
  | i8 => "I8"
  | i16 => "I16"
  | i32 => "I32"
  | i64 => "I64"
  | u8 => "U8"
  | u16 => "U16"
  | u32 => "U32"
  | u64 => "U64"
  | f32 => "F32"
  | f64 => "F64"

/-- The element type with a given short code. -/
def ofCode? (text : String) : Option ElemType := all.find? fun e => e.code == text

/-- An element type is found by its code. -/
theorem ofCode?_code (e : ElemType) : ofCode? e.code = some e := by
  cases e <;> decide

/-- The wider of two types, the first when they are equally wide. -/
def wider (a b : ElemType) : ElemType := if b.width ≤ a.width then a else b

/-- The smallest type that holds a signed and an unsigned integer: the signed
    one when it is strictly wider, else the next wider signed type, and a double
    when no integer is wide enough. -/
def promoteMixed (signed unsigned : ElemType) : ElemType :=
  if unsigned.width < signed.width then signed
  else match unsigned.width with
    | 8 => i16
    | 16 => i32
    | 32 => i64
    | _ => f64

/-- The smallest element type able to hold the values of both operands. A float
    met by an integer gives a double. -/
def promote (a b : ElemType) : ElemType :=
  if a = b then a
  else match a.family, b.family with
    | .bool, _ => b
    | _, .bool => a
    | .float, .float => wider a b
    | .float, _ => f64
    | _, .float => f64
    | .signed, .signed => wider a b
    | .unsigned, .unsigned => wider a b
    | .signed, .unsigned => promoteMixed a b
    | .unsigned, .signed => promoteMixed b a

end ElemType

end LoopKernels
