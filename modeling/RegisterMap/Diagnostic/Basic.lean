/-!
# Diagnostics

Lines that the generator writes beside its result, each with a level and the part of the program
that it comes from.

## Main definitions

* `Level` : how severe a line is.
* `Diagnostic` : a line.
* `Diagnostic.text` : a line with its level and source in front.
-/

namespace RegisterMap

/-- How severe a diagnostic is. -/
inductive Level where
  | debug
  | info
  | warning
  | error
  | critical
  deriving DecidableEq, Repr

namespace Level

/-- Severity as a number. -/
def severity : Level → Nat
  | debug => 10
  | info => 20
  | warning => 30
  | error => 40
  | critical => 50

/-- Name of the level in a line. -/
def name : Level → String
  | debug => "DEBUG"
  | info => "INFO"
  | warning => "WARNING"
  | error => "ERROR"
  | critical => "CRITICAL"

end Level

/-- A line for the user, from some part of the program. -/
structure Diagnostic where
  level : Level
  source : String
  message : String
  deriving DecidableEq, Repr

namespace Diagnostic

/-- The line with its level and source in front. -/
def text (d : Diagnostic) : String := "[" ++ d.level.name ++ "] " ++ d.source ++ ": " ++ d.message

end Diagnostic

/-! ### The parts of the program that write diagnostics -/

namespace Source

/-- Name of the program, under which all its parts are. -/
def program : String := "svd2nim"

/-- The run of the program as a whole. -/
def application : String := program ++ ".app"

/-- Reading a device description. -/
def reader : String := program ++ ".svd.svd_loader"

/-- Checking a device. -/
def checks : String := program ++ ".svd.checks"

/-- Flattening a device. -/
def flattening : String := program ++ ".svd.transform"

/-- Putting the module together. -/
def generator : String := program ++ ".codegen.device"

end Source

end RegisterMap
