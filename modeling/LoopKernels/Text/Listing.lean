import LoopKernels.Text.Classes

/-!
# Listings

A listing is a list of lines, each with the depth at which it stands. Every depth
is shown by two spaces and every line ends with a line feed.

A text that comes from outside may itself span lines. It becomes a block: the
indentation its lines share is taken away, and so are a blank first and a blank
last line. A listing with such texts inside its lines is reflowed: it is set deep
enough for its own depths to show beside the lines that the texts bring along,
and read as one block.

The fingerprint of a text is the 64-bit FNV-1a hash of its UTF-8 bytes: each byte is
mixed into the low bits, then the word is multiplied by the prime of the hash. The
arithmetic wraps.
-/

namespace LoopKernels

/-- A line and how deep it stands. -/
structure Line where
  depth : Nat
  text : String
deriving DecidableEq, Repr

/-- The lines of a text. -/
abbrev Listing := List Line

namespace Line

/-- The spaces in front of a line. -/
def margin (depth : Nat) : String := String.ofList (List.replicate (2 * depth) ' ')

/-- A line with its margin and its end. -/
def render (line : Line) : String := margin line.depth ++ line.text ++ "\n"

/-- A line with nothing on it. -/
def blank : Line := ⟨0, ""⟩

end Line

namespace Listing

/-- The text of all lines. -/
def render (listing : Listing) : String := String.join (listing.map Line.render)

/-- Moves all lines deeper. -/
def nest (depth : Nat) (listing : Listing) : Listing :=
  listing.map fun line => { line with depth := line.depth + depth }

/-- The lines between line feeds. -/
def splitLines : List Char → List (List Char)
  | [] => [[]]
  | '\n' :: rest => [] :: splitLines rest
  | c :: rest =>
    match splitLines rest with
    | [] => [[c]]
    | line :: others => (c :: line) :: others

/-- A line with nothing but blanks. -/
def isBlankLine (line : List Char) : Bool := line.all isBlankChar

/-- Without the first line, if that is blank. -/
def dropBlankHead : List (List Char) → List (List Char)
  | [] => []
  | line :: rest => if isBlankLine line then rest else line :: rest

/-- Without a blank first and a blank last line. -/
def trimLines (lines : List (List Char)) : List (List Char) :=
  (dropBlankHead (dropBlankHead lines).reverse).reverse

/-- How many spaces and tabs a line starts with. -/
def indentation (line : List Char) : Nat :=
  (line.takeWhile fun c => c == ' ' || c == '\t').length

/-- The indentation shared by all lines that are not blank. -/
def sharedIndentation (lines : List (List Char)) : Nat :=
  (((lines.filter fun line => !isBlankLine line).map indentation).min?).getD 0

/-- The lines of a text at a depth. -/
def block (depth : Nat) (text : String) : Listing :=
  let lines := trimLines (splitLines text.toList)
  let shared := sharedIndentation lines
  lines.map fun line =>
    if isBlankLine line then Line.blank else ⟨depth, String.ofList (line.drop shared)⟩

/-- The depth at which a listing is set before it is reflowed. -/
def reflowDepth : Nat := 8

/-- A listing whose lines may hold line feeds, as one block. -/
def reflow (listing : Listing) : Listing := block 0 (render (nest reflowDepth listing))

/-- A function: its heading, its body one level deeper, and the closing brace. -/
def function (heading : String) (body : Listing) : Listing :=
  [⟨0, heading ++ " \x7b"⟩] ++ nest 1 body ++ [⟨0, "\x7d"⟩]

/-- Nested counting loops, given by index and bound from the outside in, around a body. -/
def loops : List (String × String) → Listing → Listing
  | [], body => body
  | (index, bound) :: rest, body =>
    ⟨0, "for (size_t " ++ index ++ " = 0; " ++ index ++ " < " ++ bound ++ "; ++" ++ index ++
        ") \x7b"⟩ :: nest 1 (loops rest body) ++ [⟨0, "\x7d"⟩]

/-- Entries separated by commas. -/
def commas (entries : List String) : String := String.intercalate ", " entries

/-- The element of an array at the given indices. -/
def element (array : String) (indices : List String) : String :=
  if indices.isEmpty then array ++ "[0]" else array ++ "[" ++ commas indices ++ "]"

/-- A tuple; with one entry it keeps a comma. -/
def tuple : List String → String
  | [] => "()"
  | [entry] => "(" ++ entry ++ ",)"
  | entries => "(" ++ commas entries ++ ")"

end Listing

namespace Fingerprint

/-- The hash of no bytes. -/
def basis : UInt64 := 0xcbf29ce484222325

/-- The factor by which a fingerprint is spread. -/
def prime : UInt64 := 0x100000001b3

/-- Mixes one byte into the hash. -/
def mix (hash : UInt64) (byte : UInt8) : UInt64 := (hash ^^^ byte.toUInt64) * prime

/-- The fingerprint of a list of bytes. -/
def ofBytes (bytes : List UInt8) : UInt64 := bytes.foldl mix basis

/-- The fingerprint of a text is that of its bytes. -/
def ofText (text : String) : UInt64 := ofBytes text.toUTF8.toList

end Fingerprint

end LoopKernels
