import Tenancy.Config.Issue
import Tenancy.Dialect
import Tenancy.Error
import Tenancy.Text.Blank

/-!
# Logging/Settings — what is reported, and where to

A level is one of six words. Modules may have levels of their own.
-/

namespace Tenancy

/-- How a reported event is written. -/
inductive LogFormat where
  | text
  | json
  deriving Repr, DecidableEq

namespace LogFormat

def word : LogFormat → String
  | .text => "text"
  | .json => "json"

def ofWord? : String → Option LogFormat
  | "text" => some .text
  | "json" => some .json
  | _ => none

/-- Reads the word with blanks around it. -/
def read (s : String) : Except SettingsFault LogFormat :=
  let w := String.ofList (Text.trim s.toList)
  match ofWord? w with
  | some f => .ok f
  | none => .error (.logFormat w)

end LogFormat

/-- Where reported events are written. -/
inductive LogOutput where
  | stdout
  | stderr
  | file
  deriving Repr, DecidableEq

namespace LogOutput

def word : LogOutput → String
  | .stdout => "stdout"
  | .stderr => "stderr"
  | .file => "file"

def ofWord? : String → Option LogOutput
  | "stdout" => some .stdout
  | "stderr" => some .stderr
  | "file" => some .file
  | _ => none

/-- Reads the word with blanks around it. -/
def read (s : String) : Except SettingsFault LogOutput :=
  let w := String.ofList (Text.trim s.toList)
  match ofWord? w with
  | some o => .ok o
  | none => .error (.logOutput w)

end LogOutput

structure LoggingSettings where
  level : String := "info"
  format : LogFormat := .text
  output : LogOutput := .stderr
  file : String := "nsload.log"
  color : Bool := true
  /-- Levels of modules. -/
  modules : Table String String := ∅

namespace LoggingSettings

/-- The words for levels. -/
def levels : List String :=
  ["trace", "debug", "info", "warn", "error", "off"]

/-- What is wrong with the settings, the first fault only. -/
def validate (s : LoggingSettings) : Except LoggingIssue Unit :=
  if !levels.contains s.level then .error (.unknownLevel s.level)
  else
    match s.modules.pairs.find? fun m => !levels.contains m.2 with
    | some (module, level) => .error (.unknownModuleLevel level module)
    | none =>
      if s.output = .file && s.file.isEmpty then .error .emptyFile else .ok ()

/-! ## JSON -/

def toJson (s : LoggingSettings) : Json :=
  .obj [("level", .str s.level), ("format", .str s.format.word), ("output", .str s.output.word),
    ("file", .str s.file), ("color", .bool s.color),
    ("modules", .obj (s.modules.pairs.map fun m => (m.1, .str m.2)))]

def read {V : Type} (d : Dialect V) (v : V) : Option LoggingSettings :=
  match d.record? ["level", "format", "output", "file", "color", "modules"] v with
  | some [level, format, output, file, color, modules] => do
    let level ← Dialect.field? d.text? (some "info") level
    let format ← Dialect.field? (d.choiceOf? LogFormat.ofWord?) (some .text) format
    let output ← Dialect.field? (d.choiceOf? LogOutput.ofWord?) (some .stderr) output
    let file ← Dialect.field? d.text? (some "nsload.log") file
    let color ← Dialect.field? d.flag? (some true) color
    let modules ← Dialect.field? (d.tableOf? d.text?) (some ∅) modules
    some { level, format, output, file, color, modules }
  | _ => none

def ofJson? (j : Json) : Option LoggingSettings :=
  read Json.dialect j

end LoggingSettings

end Tenancy
