import LoopKernels.Text.Classes

/-!
# Configuration

Settings shared by all kernels of one compiler. They come from three texts of
the environment, each of which may be missing; a text of white space counts as
missing. Flags are set by the words 1, true, yes and on in any case and cleared
by every other text. An unknown target is reported and replaced by the default.

What configuring, building and running kernels reports is an event: a level, a message
and named fields, all as text. Events are values; the functions that give them do
nothing else.
-/

namespace LoopKernels

/-- How urgent an event is. -/
inductive EventLevel where
  | trace
  | debug
  | warn
deriving DecidableEq, Repr

/-- The level as it is shown. -/
def EventLevel.name : EventLevel → String
  | trace => "TRACE"
  | debug => "DEBUG"
  | warn => "WARN"

/-- Something that is reported. -/
structure Event where
  level : EventLevel
  message : String
  fields : List (String × String)
deriving DecidableEq, Repr

/-- Where elementwise kernels run their loop. Both give the same result. -/
inductive Target where
  | cpu
  | parallel
deriving DecidableEq, Repr

namespace Target

/-- The name under which a target is listed. -/
def name : Target → String
  | cpu => "cpu"
  | parallel => "parallel"

/-- The target a text names, white space around it and case aside. -/
def parse? (text : String) : Option Target :=
  match asciiLower (trimBlank text) with
  | "cpu" => some cpu
  | "parallel" => some parallel
  | _ => none

end Target

/-- What holds for all kernels that are built together. -/
structure Config where
  /-- Float arithmetic may be relaxed. -/
  fastmath : Bool := true
  /-- Reads are checked in kernels that do not switch the check off. -/
  boundscheck : Bool := false
  target : Target := .cpu
deriving DecidableEq, Repr

namespace Config

/-- A text that is given and says something. -/
def given (text : Option String) : Option String := text.filter fun value => !isBlank value

/-- A flag from a text of the environment. -/
def flag (fallback : Bool) (text : Option String) : Bool :=
  match given text with
  | some value => asciiLower (trimBlank value) ∈ ["1", "true", "yes", "on"]
  | none => fallback

/-- The target from a text of the environment. -/
def targetOf (text : Option String) : Target :=
  match given text with
  | some value => (Target.parse? value).getD .cpu
  | none => .cpu

/-- The configuration that three texts of the environment describe. -/
def ofEnvironment (fastmath boundscheck target : Option String) : Config where
  fastmath := flag true fastmath
  boundscheck := flag false boundscheck
  target := targetOf target

/-- The events of reading a configuration: a target that is not known. -/
def environmentEvents (target : Option String) : List Event :=
  match given target with
  | some value =>
    match Target.parse? value with
    | some _ => []
    | none => [⟨.warn, "unknown TENSORJIT_VECTORIZE_TARGET, falling back to cpu",
        [("value", value)]⟩]
  | none => []

end Config

end LoopKernels
