import LoopKernels.Json.Token

/-!
# Reading JSON

A machine with a stack of unfinished arrays and objects takes one token at a
time. It accepts exactly one value, with no token after it. An object with a key
that denotes nothing denotes nothing itself.
-/

namespace LoopKernels.Json

/-- The members of an object that is being read, last member first; nothing once a key
    denoted nothing. -/
abbrev Members := Option (List (String × Json))

namespace Members

/-- A member is put in front, unless its key or an earlier one denoted nothing. -/
def push (members : Members) (key : Option String) (value : Json) : Members := do
  pure ((← key, value) :: (← members))

/-- The finished object. -/
def close : Members → Json
  | some members => .obj members.reverse
  | none => .noValue

end Members

/-- An array or object under construction, what it holds kept last entry first. -/
inductive Frame where
  | array (items : List Json)
  /-- An object that waits for a key. -/
  | object (members : Members)
  /-- An object that waits for the value of a key. -/
  | member (members : Members) (key : Option String)

/-- What the machine waits for. -/
inductive Phase where
  | value
  /-- The first item of an array, or its end. -/
  | firstItem
  /-- The first key of an object, or its end. -/
  | firstKey
  | key
  | colon (key : Option String)
  /-- A value is complete; a comma, the end of what holds it, or the end of the text. -/
  | after (complete : Json)

/-- The machine: what is unfinished, innermost first, and what may come next. -/
structure Assembly where
  frames : List Frame
  phase : Phase

namespace Assembly

/-- The value that a single token stands for. -/
def plain? : JsonToken → Option Json
  | .null => some .null
  | .bool b => some (.bool b)
  | .num (some n) => some (.num n)
  | .str (some s) => some (.str s)
  | .num none | .str none => some .noValue
  | _ => none

/-- Starts a value. -/
def start? (frames : List Frame) (token : JsonToken) : Option Assembly :=
  match token with
  | .openArray => some ⟨.array [] :: frames, .firstItem⟩
  | .openObject => some ⟨.object (some []) :: frames, .firstKey⟩
  | _ => (plain? token).map fun value => ⟨frames, .after value⟩

/-- Takes one token. -/
def take? (state : Assembly) (token : JsonToken) : Option Assembly :=
  match state.phase, token, state.frames with
  | .value, _, frames => start? frames token
  | .firstItem, .closeArray, .array items :: frames => some ⟨frames, .after (.arr items)⟩
  | .firstItem, _, frames => start? frames token
  | .firstKey, .closeObject, .object members :: frames => some ⟨frames, .after members.close⟩
  | .firstKey, .str key, frames => some ⟨frames, .colon key⟩
  | .key, .str key, frames => some ⟨frames, .colon key⟩
  | .colon key, .colon, .object members :: frames => some ⟨.member members key :: frames, .value⟩
  | .after value, .comma, .array items :: frames => some ⟨.array (value :: items) :: frames, .value⟩
  | .after value, .comma, .member members key :: frames =>
    some ⟨.object (members.push key value) :: frames, .key⟩
  | .after value, .closeArray, .array items :: frames =>
    some ⟨frames, .after (.arr (value :: items).reverse)⟩
  | .after value, .closeObject, .member members key :: frames =>
    some ⟨frames, .after (members.push key value).close⟩
  | _, _, _ => none

/-- The value that has been read, once nothing is unfinished. -/
def finish? (state : Assembly) : Option Json :=
  match state.phase, state.frames with
  | .after value, [] => some value
  | _, _ => none

end Assembly

/-- The value that a list of tokens denotes. -/
def ofTokens? (tokens : List JsonToken) : Option Json := do
  let state ← tokens.foldlM Assembly.take? ⟨[], .value⟩
  state.finish?

/-- Reads a text that holds one value. -/
def read? (text : String) : Option Json := do
  let tokens ← JsonToken.lex? text
  ofTokens? tokens

end LoopKernels.Json
