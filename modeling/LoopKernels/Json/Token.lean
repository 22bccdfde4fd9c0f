import LoopKernels.Json.Number

/-!
# JSON tokens

The lexer is a machine that takes one character at a time. Between tokens it
skips blanks, tabs and line ends; a bare word or a number lasts until a
character that cannot belong to it. Inside a string, control characters are
refused and a code point outside the basic plane is escaped as a pair of
surrogates. A string in which one of a pair stands alone denotes nothing, nor
does a number beyond the doubles; both are tokens all the same.
-/

namespace LoopKernels

/-- The marks, words, numbers and strings of which a text is made. -/
inductive JsonToken where
  | openArray
  | closeArray
  | openObject
  | closeObject
  | comma
  | colon
  | null
  | bool (b : Bool)
  | num (n : Option JsonNumber)
  | str (s : Option String)
deriving DecidableEq, Repr

namespace JsonToken

/-- What has been read of a string, last character first; nothing once a surrogate
    stood alone. -/
abbrev Draft := Option (List Char)

/-- Where the lexer stands. What has been read of a token is kept last character first. -/
inductive Place where
  | between
  | word (read : List Char)
  | number (read : List Char)
  | text (draft : Draft)
  /-- After a backslash in a string. -/
  | escape (draft : Draft)
  /-- Among the four digits of an escape; a first surrogate may have come before. -/
  | code (draft : Draft) (lead : Option Nat) (digits : Nat) (value : Nat)
  /-- After a first surrogate, before the backslash of the second. -/
  | pairSlash (draft : Draft) (lead : Nat)
  /-- After that backslash. -/
  | pairMark (draft : Draft) (lead : Nat)

/-- The lexer's place and the tokens read so far, last token first. -/
structure Lexer where
  place : Place
  tokens : List JsonToken

/-- The four blanks that may stand between tokens. -/
def isJsonBlank (c : Char) : Bool := c == ' ' || c == '\t' || c == '\n' || c == '\r'

/-- The characters by which a number goes on. -/
def isNumberChar (c : Char) : Bool :=
  c.isDigit || c == '-' || c == '+' || c == '.' || c == 'e' || c == 'E'

/-- The token of a word that was read, last letter first. -/
def ofWord? (read : List Char) : Option JsonToken :=
  match String.ofList read.reverse with
  | "null" => some null
  | "true" => some (bool true)
  | "false" => some (bool false)
  | _ => none

/-- The token of a number that was read, last character first. -/
def ofNumber? (read : List Char) : Option JsonToken :=
  (JsonNumber.parts? read.reverse).map fun parts => num (JsonNumber.ofParts? parts)

/-- The token of a string that was read, last character first. -/
def ofDraft (draft : Draft) : JsonToken := str (draft.map fun read => String.ofList read.reverse)

/-- The token that is a mark of one character. -/
def ofMark? (c : Char) : Option JsonToken :=
  match c with
  | '[' => some openArray
  | ']' => some closeArray
  | '\x7b' => some openObject
  | '\x7d' => some closeObject
  | ',' => some comma
  | ':' => some colon
  | _ => none

/-- A character between tokens: a blank, a mark, or the first of a token. -/
def begin? (tokens : List JsonToken) (c : Char) : Option Lexer :=
  if isJsonBlank c then some ⟨.between, tokens⟩
  else if c = '"' then some ⟨.text (some []), tokens⟩
  else if c.isDigit ∨ c = '-' then some ⟨.number [c], tokens⟩
  else if c.isAlpha then some ⟨.word [c], tokens⟩
  else (ofMark? c).map fun token => ⟨.between, token :: tokens⟩

/-- The value of a digit to the base sixteen, in either case. -/
def hexDigit? (c : Char) : Option Nat :=
  if c.isDigit then some (c.toNat - 48)
  else if 'a' ≤ c ∧ c ≤ 'f' then some (c.toNat - 87)
  else if 'A' ≤ c ∧ c ≤ 'F' then some (c.toNat - 55)
  else none

/-- The character a one-letter escape stands for. -/
def escaped? (c : Char) : Option Char :=
  match c with
  | '"' => some '"'
  | '\\' => some '\\'
  | '/' => some '/'
  | 'b' => some '\x08'
  | 'f' => some '\x0c'
  | 'n' => some '\n'
  | 'r' => some '\r'
  | 't' => some '\t'
  | _ => none

/-- Appends a character to a string. -/
def Draft.push (draft : Draft) (c : Char) : Draft := draft.map (c :: ·)

/-- A character inside a string. -/
def inText? (tokens : List JsonToken) (draft : Draft) (c : Char) : Option Lexer :=
  if c = '"' then some ⟨.between, ofDraft draft :: tokens⟩
  else if c = '\\' then some ⟨.escape draft, tokens⟩
  else if c.toNat < 0x20 then none
  else some ⟨.text (draft.push c), tokens⟩

/-- A character after a backslash. -/
def inEscape? (tokens : List JsonToken) (draft : Draft) (c : Char) : Option Lexer :=
  if c = 'u' then some ⟨.code draft none 0 0, tokens⟩
  else (escaped? c).map fun plain => ⟨.text (draft.push plain), tokens⟩

/-- The place after an escape of four digits. -/
def afterCode (draft : Draft) (lead : Option Nat) (value : Nat) : Place :=
  match lead with
  | some first =>
    if 0xDC00 ≤ value ∧ value ≤ 0xDFFF then
      .text (draft.push (Char.ofNat (0x10000 + (first - 0xD800) * 0x400 + (value - 0xDC00))))
    else .text none
  | none =>
    if 0xD800 ≤ value ∧ value ≤ 0xDBFF then .pairSlash draft value
    else if 0xDC00 ≤ value ∧ value ≤ 0xDFFF then .text none
    else .text (draft.push (Char.ofNat value))

/-- Takes one character. -/
def Lexer.take? (lexer : Lexer) (c : Char) : Option Lexer :=
  match lexer.place with
  | .between => begin? lexer.tokens c
  | .word read =>
    if c.isAlpha then some ⟨.word (c :: read), lexer.tokens⟩
    else do
      let token ← ofWord? read
      begin? (token :: lexer.tokens) c
  | .number read =>
    if isNumberChar c then some ⟨.number (c :: read), lexer.tokens⟩
    else do
      let token ← ofNumber? read
      begin? (token :: lexer.tokens) c
  | .text draft => inText? lexer.tokens draft c
  | .escape draft => inEscape? lexer.tokens draft c
  | .code draft lead digits value => do
    let digit ← hexDigit? c
    let next := 16 * value + digit
    if digits = 3 then pure ⟨afterCode draft lead next, lexer.tokens⟩
    else pure ⟨.code draft lead (digits + 1) next, lexer.tokens⟩
  | .pairSlash draft lead =>
    if c = '\\' then some ⟨.pairMark draft lead, lexer.tokens⟩
    else inText? lexer.tokens none c
  | .pairMark draft lead =>
    if c = 'u' then some ⟨.code draft (some lead) 0 0, lexer.tokens⟩
    else inEscape? lexer.tokens none c

/-- Ends the text: no string may be open. -/
def Lexer.finish? (lexer : Lexer) : Option (List JsonToken) :=
  match lexer.place with
  | .between => some lexer.tokens.reverse
  | .word read => (ofWord? read).map fun token => (token :: lexer.tokens).reverse
  | .number read => (ofNumber? read).map fun token => (token :: lexer.tokens).reverse
  | _ => none

/-- The tokens of a text. -/
def lex? (text : String) : Option (List JsonToken) := do
  let lexer ← text.toList.foldlM Lexer.take? ⟨.between, []⟩
  lexer.finish?

end JsonToken

end LoopKernels
