import LoopKernels.Kernel.Config
import LoopKernels.Text.Inspect

/-!
# Compile options

The settings one kernel is compiled with. They are part of its listing, and the
check of coordinates is the only one that its loops look at.
-/

namespace LoopKernels

/-- How much is spent on making a kernel fast. -/
inductive OptLevel where
  | default
  /-- Extra passes over nested loops. -/
  | aggressive
deriving DecidableEq, Repr

namespace OptLevel

/-- The name under which a level is listed. -/
def name : OptLevel → String
  | default => "default"
  | aggressive => "aggressive"

/-- The name of a level when it is inspected. -/
def title : OptLevel → String
  | default => "Default"
  | aggressive => "Aggressive"

end OptLevel

/-- The options of one kernel. -/
structure Options where
  boundscheck : Bool := false
  fastmath : Bool := false
  level : OptLevel := .default
  /-- The body of the kernel is put in place of its calls. -/
  inlined : Bool := false
deriving DecidableEq, Repr

namespace Options

/-- The options of a kernel that takes them from the configuration. -/
def ofConfig (config : Config) : Options where
  boundscheck := config.boundscheck
  fastmath := config.fastmath

/-- Reduction loops read unchecked and are optimized further. -/
def reduction (config : Config) : Options where
  fastmath := config.fastmath
  level := .aggressive

/-- The options of a kernel that is a step of another one. -/
def step (config : Config) : Options := { ofConfig config with boundscheck := false }

/-- A setting that is on or off. -/
def switch (on : Bool) : String := if on then "on" else "off"

/-- The text of the options in a listing. -/
def text (o : Options) : String :=
  "opt_level=" ++ o.level.name ++ " fastmath=" ++ switch o.fastmath ++ " boundscheck=" ++
    switch o.boundscheck ++ " inline=" ++ (if o.inlined then "always" else "never")

/-- The options field by field. -/
def inspect (o : Options) : String :=
  "CompileOptions \x7b boundscheck: " ++ Inspect.flag o.boundscheck ++ ", fastmath: " ++
    Inspect.flag o.fastmath ++ ", opt_level: " ++ o.level.title ++ ", inline: " ++
    Inspect.flag o.inlined ++ " \x7d"

end Options

end LoopKernels
