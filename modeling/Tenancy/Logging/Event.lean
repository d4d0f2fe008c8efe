/-!
# Logging/Event — what an operation reports

An event has a level, the part of the program it comes from, a message and named values. Events are
values: an operation gives them in the order in which they happen, and who wants them picks by
level and origin.
-/

namespace Tenancy

inductive LogLevel where
  | trace
  | debug
  | info
  | warn
  | error
  deriving Repr, DecidableEq

namespace LogLevel

/-- Greater is more severe. -/
def severity : LogLevel → Nat
  | .trace => 0
  | .debug => 1
  | .info => 2
  | .warn => 3
  | .error => 4

def title : LogLevel → String
  | .trace => "TRACE"
  | .debug => "DEBUG"
  | .info => "INFO"
  | .warn => "WARN"
  | .error => "ERROR"

def ofWord? : String → Option LogLevel
  | "trace" => some .trace
  | "debug" => some .debug
  | "info" => some .info
  | "warn" => some .warn
  | "error" => some .error
  | _ => none

end LogLevel

inductive FieldValue where
  | text (s : String)
  | number (n : Nat)
  | flag (b : Bool)
  deriving Repr, DecidableEq

structure Event where
  level : LogLevel
  /-- The part of the program that reports, as a path with `::` between its parts. -/
  origin : String
  message : String
  fields : List (String × FieldValue)
  deriving Repr, DecidableEq

end Tenancy
