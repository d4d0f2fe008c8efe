import Tenancy.Json.Value
import Tenancy.Logging.Event

/-!
# Logging/Line — events as lines

A line begins with the time. As text it has the level right-aligned, the origin, the message and the
fields, in colour or not; as JSON it is one object.
-/

namespace Tenancy

namespace FieldValue

def shown : FieldValue → String
  | .text s => s
  | .number n => toString n
  | .flag b => if b then "true" else "false"

def toJson : FieldValue → Json
  | .text s => .str s
  | .number n => .nat n
  | .flag b => .bool b

end FieldValue

/-! ## Colour -/

/-- How a piece of a line is shown on a terminal. -/
inductive Ink where
  | plain
  | dim
  | italic
  | coloured (number : Nat)
  deriving Repr, DecidableEq

def Ink.code : Ink → Option Nat
  | .plain => none
  | .dim => some 2
  | .italic => some 3
  | .coloured n => some n

/-- The colour of a level. -/
def LogLevel.ink : LogLevel → Ink
  | .trace => .coloured 35
  | .debug => .coloured 34
  | .info => .coloured 32
  | .warn => .coloured 33
  | .error => .coloured 31

abbrev Painted := List (Ink × String)

/-- The pieces, one after another, with control sequences if `color`. -/
def Painted.text (color : Bool) (ps : Painted) : String :=
  String.join (ps.map fun p =>
    match p.1.code with
    | some n => if color then s!"\x1b[{n}m" ++ p.2 ++ "\x1b[0m" else p.2
    | none => p.2)

namespace Event

/-! ## Lines -/

/-- The level's title in five places. -/
def paddedTitle (l : LogLevel) : String :=
  String.ofList (List.replicate (5 - l.title.length) ' ') ++ l.title

/-- The pieces of a line. -/
def painted (time : String) (e : Event) : Painted :=
  [(.dim, time), (.plain, " "), (e.level.ink, paddedTitle e.level), (.plain, " "),
    (.dim, e.origin), (.dim, ":"), (.plain, " " ++ e.message)] ++
  e.fields.flatMap fun f =>
    [(.plain, " "), (.italic, f.1), (.dim, "="), (.plain, f.2.shown)]

def textLine (time : String) (color : Bool) (e : Event) : String :=
  (e.painted time).text color

def toJson (time : String) (e : Event) : Json :=
  .obj [("timestamp", .str time), ("level", .str e.level.title),
    ("fields", .obj (("message", .str e.message) :: e.fields.map fun f => (f.1, f.2.toJson))),
    ("target", .str e.origin)]

def jsonLine (time : String) (e : Event) : String :=
  (e.toJson time).render

end Event

end Tenancy
