/-!
# Patterns

Regular expressions without alternatives. A pattern is matched at the front of a
text, and there may be several ways to match it; `rests` lists what each of them
leaves, in order of preference. Repetitions and options are greedy: they would rather
match once more. Of several matches at one place the first one counts, and of several
places the leftmost.
-/

namespace LoopKernels

/-- A pattern that texts may match. -/
inductive Pattern where
  /-- One character of a class. -/
  | one (accepts : Char → Bool)
  | seq (first second : Pattern)
  /-- Once or not at all. -/
  | optional (p : Pattern)
  /-- Any number of times. -/
  | many (p : Pattern)

namespace Pattern

/-- The given character. -/
def char (c : Char) : Pattern := one (· == c)

/-- At least once. -/
def some (p : Pattern) : Pattern := seq p (many p)

/-- At least once, with a character between. -/
def separated (separator : Char) (p : Pattern) : Pattern :=
  seq p (many (seq (char separator) p))

/-- What is left after at most so many further rounds of a repetition, each of which takes
    at least one character. -/
def rounds (round : List Char → List (List Char)) : Nat → List Char → List (List Char)
  | 0, text => [text]
  | more + 1, text =>
    ((round text).filter (·.length < text.length)).flatMap (rounds round more) ++ [text]

/-- What the matches at the front of a text leave of it, the preferred match first. A text
    has as many rounds of a repetition as it has characters, at most. -/
def rests : Pattern → List Char → List (List Char)
  | one accepts, c :: text => if accepts c then [text] else []
  | one _, [] => []
  | seq first second, text => (first.rests text).flatMap second.rests
  | optional p, text => p.rests text ++ [text]
  | many p, text => rounds p.rests text.length text

/-- The whole text matches. -/
def matchesAll (p : Pattern) (text : List Char) : Bool := (p.rests text).any List.isEmpty

/-- The leftmost match, and the text behind it. -/
def find? (p : Pattern) : List Char → Option (List Char × List Char)
  | [] => (p.rests []).head?.map fun rest => ([], rest)
  | c :: text =>
    match (p.rests (c :: text)).head? with
    | .some rest => .some ((c :: text).take ((c :: text).length - rest.length), rest)
    | none => p.find? text

/-- The matches from left to right, as many as asked for at most; each is sought behind the one
    before. An empty match ends the search. -/
def findUpTo (p : Pattern) : Nat → List Char → List (List Char)
  | 0, _ => []
  | more + 1, text =>
    match p.find? text with
    | .some (c :: found, rest) => (c :: found) :: p.findUpTo more rest
    | _ => []

/-- All matches from left to right. There are at most as many as there are characters. -/
def findAll (p : Pattern) (text : List Char) : List (List Char) := p.findUpTo text.length text

/-- A text of at most so many characters without its matches. -/
def removeUpTo (p : Pattern) : Nat → List Char → List Char
  | more + 1, c :: text =>
    match (p.rests (c :: text)).head? with
    | .some rest =>
      if rest.length ≤ text.length then p.removeUpTo more rest else c :: p.removeUpTo more text
    | none => c :: p.removeUpTo more text
  | _, _ => []

/-- The text without its matches, which are sought from left to right. -/
def remove (p : Pattern) (text : List Char) : List Char := p.removeUpTo text.length text

end Pattern

end LoopKernels
