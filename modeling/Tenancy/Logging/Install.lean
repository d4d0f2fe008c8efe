import Tenancy.Files.Change
import Tenancy.Logging.Filter
import Tenancy.Logging.Line
import Tenancy.Logging.Settings

/-!
# Logging/Install — who hears about events

Variables of the environment count more than settings. There is one listener at most: a second one
is refused, but only after its settings have been looked at and its file has been opened.
-/

namespace Tenancy

/-- A listener: what it hears, how it writes that down, and where to. -/
structure Listener where
  filter : LogFilter
  format : LogFormat
  output : LogOutput
  /-- Whether text is written in colour. -/
  color : Bool
  /-- The file that is written to. -/
  file : Option Files.Way := none

/-- The line for an event, if the listener hears it. -/
def Listener.line? (l : Listener) (time : String) (e : Event) : Option String :=
  if l.filter.passes e then
    some (match l.format with
      | .text => e.textLine time l.color
      | .json => e.jsonLine time)
  else none

namespace LoggingSettings

variable (env : List (String × String)) (s : LoggingSettings)

/-! ## What is heard -/

/-- The pairs `module=level` between commas; pairs that lack either are left out. -/
def moduleDirectives (pairs : String) : List String :=
  (pairs.toList.splitOn ',').filterMap fun cs =>
    let name := Text.trim (cs.takeWhile (· != '='))
    let level := Text.trim ((cs.dropWhile (· != '=')).drop 1)
    if !cs.contains '=' || name.isEmpty || level.isEmpty then none
    else some (String.ofList (name ++ '=' :: level))

/-- The directives about modules, those of the environment last. -/
def directives : List String :=
  (s.modules.pairs.map fun m => m.1 ++ "=" ++ m.2) ++
    ((env.lookup "NSLOAD_LOG_MODULES").map moduleDirectives).getD []

/-- Adds directives up to the first that is not good. -/
def addDirectives (f : LogFilter) : List String → Except SettingsFault LogFilter
  | [] => .ok f
  | d :: ds =>
    match Directive.read d with
    | .ok r => addDirectives (f.addDirective r) ds
    | .error e => .error (.logDirective d e)

/-- What the settings say is heard, with complaints about what was left out of it. -/
def ownFilter : List String × Except SettingsFault LogFilter :=
  if s.level == "off" then ([], .ok (LogFilter.readLeniently "off").2)
  else
    let (out, f) := LogFilter.readLeniently s.level
    (out.map fun o => LogFilter.complaint o.1 o.2,
      match out.find? fun o => o.2.uncaught?.isSome with
      | some (d, e) => .error (.logDirective d e)
      | none => addDirectives f (s.directives env))

/-- What is heard. A whole filter in the environment goes before everything else, if it is good. -/
def filter : List String × Except SettingsFault LogFilter :=
  match (env.lookup "NSLOAD_LOG").map fun v => (v, LogFilter.read v) with
  | none => s.ownFilter env
  | some (_, .ok f) => ([], .ok f)
  | some (v, .error e) =>
    if e.uncaught?.isSome then ([], .error (.logDirective v e)) else s.ownFilter env

/-! ## How and where to -/

/-- A setting that a variable may override. -/
def overridden {α : Type} (name : String) (read : String → Except SettingsFault α) (value : α) :
    Except SettingsFault α :=
  match env.lookup name with
  | some v => read v
  | none => .ok value

/-- Makes the directory of the file and opens it. -/
def openLog (t : Files.Tree) : Except SettingsFault (Files.Way × Files.Tree) :=
  match t.makeDirectories (Files.parts s.file).dropLast with
  | .error e => .error (.logDirectory e)
  | .ok t =>
    match t.openFile s.file with
    | .ok r => .ok r
    | .error e => .error (.logFile s.file e)

/-- The listener that the settings ask for, and the files after its own has been opened. -/
def listener (t : Files.Tree) (filter : LogFilter) :
    Except SettingsFault (Listener × Files.Tree) := do
  let format ← overridden env "NSLOAD_LOG_FORMAT" LogFormat.read s.format
  let output ← overridden env "NSLOAD_LOG_OUTPUT" LogOutput.read s.output
  match output with
  | .file => do
    let (w, t) ← s.openLog t
    .ok (⟨filter, format, .file, false, some w⟩, t)
  | output => .ok (⟨filter, format, output, s.color, none⟩, t)

/-- What came of an attempt to listen. -/
structure Attempt where
  /-- Complaints for the standard error output. -/
  complaints : List String
  result : Except SettingsFault (Listener × Files.Tree)

/-- **Sets up the listener**; `taken` says that there is one already. -/
def install (t : Files.Tree) (taken : Bool) : Attempt :=
  let (complaints, filter) := s.filter env
  ⟨complaints, do
    let f ← filter
    let (l, t) ← s.listener env t f
    if taken then .error .alreadyLogging else .ok (l, t)⟩

end LoggingSettings

end Tenancy
