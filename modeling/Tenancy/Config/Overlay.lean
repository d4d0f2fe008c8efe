import Tenancy.Config.Basic
import Tenancy.Config.KeyPath
import Tenancy.Decimal.Written
import Tenancy.Json.Number
import Tenancy.Toml.Document

/-!
# Config/Overlay — sources of settings, one over the other

An overlay binds names to values. Overlays are put into one table in turn, so that a later one wins
wherever two of them say something else; the configuration is read from that table.
-/

namespace Tenancy

/-- Why a configuration cannot be loaded. -/
inductive LoadFault where
  /-- A source is not written in its format. -/
  | parse
  /-- A source is not there or is not a text, or its format is not known. -/
  | read
  /-- The values do not fit their places. -/
  | shape
  /-- A list would have to be longer than a list can be. -/
  | noRoom
  deriving Repr, DecidableEq

/-- What the fault says if nobody answers for it. -/
def LoadFault.uncaught? : LoadFault → Option String
  | .noRoom => some "capacity overflow"
  | _ => none

abbrev Overlay := List (String × Setting)

/-! ## From JSON -/

/-- How deep values may be nested in a JSON source. -/
def jsonDepthLimit : Nat := 128

mutual

/-- The value that a JSON value stands for, `room` being how deep it may be nested. -/
def Setting.ofJson? (room : Nat) : Json → Option Setting
  | .null => some .nothing
  | .bool b => some (.flag b)
  | .number w =>
    match Json.numberValue? w with
    | some (.whole n) =>
      some (if Decimal.fits64 n then .whole n else .double (.ofDecimal false n.toNat 0))
    | some (.double d) => some (.double d)
    | none => none
  | .text s => s.map .text
  | .array items => if room ≤ 1 then none else (listOfJson? (room - 1) items).map .list
  | .object members =>
    if room ≤ 1 then none else (overlayOfMembers? (room - 1) [] members).map .table

def listOfJson? (room : Nat) : List Json → Option (List Setting)
  | [] => some []
  | j :: js => do
    let v ← Setting.ofJson? room j
    let vs ← listOfJson? room js
    some (v :: vs)

/-- The members of an object after others; the last of several with one key counts. -/
def overlayOfMembers? (room : Nat) (before : Overlay) : List (Option String × Json) → Option Overlay
  | [] => some before
  | (key, j) :: rest => do
    let name ← key
    let v ← Setting.ofJson? room j
    overlayOfMembers? room (Setting.rebind before name v) rest

end

namespace Overlay

/-- The overlay that a JSON text holds. -/
def ofJsonText? (text : String) : Option Overlay :=
  match (Json.parseString text).bind (Setting.ofJson? jsonDepthLimit) with
  | some (.table members) => some members
  | _ => none

end Overlay

/-! ## From TOML -/

mutual

def Setting.ofToml : Toml.Value → Setting
  | .text s => .text s
  | .integer n => .whole n
  | .float d => .double d
  | .boolean b => .flag b
  | .moment written => .text written
  | .array items => .list (listOfToml items)
  | .table members => .table (overlayOfToml members)

def listOfToml : List Toml.Value → List Setting
  | [] => []
  | v :: vs => Setting.ofToml v :: listOfToml vs

def overlayOfToml : List (String × Toml.Value) → Overlay
  | [] => []
  | (name, v) :: rest => (name, Setting.ofToml v) :: overlayOfToml rest

end

namespace Overlay

/-- The overlay that a TOML text holds. -/
def ofTomlText? (text : String) : Option Overlay :=
  (Toml.parse text).map overlayOfToml

/-! ## From the environment -/

/-- What the names of variables begin with that are settings, in small letters. -/
def variableStart : List Char :=
  "nsload__".toList

/-- Two underscores go one level down. -/
def levels : List Char → List Char
  | '_' :: '_' :: rest => '.' :: levels rest
  | c :: rest => c :: levels rest
  | [] => []

/-- The name that a variable sets, if it is a setting. -/
def settingName? (name : String) : Option String :=
  let cs := (Text.lower name).toList
  if variableStart.isPrefixOf cs then
    some (String.ofList (levels (cs.drop variableStart.length)))
  else none

/-- A flag, a number or a text, whatever the words can be taken for first. -/
def settingOfWords (words : String) : Setting :=
  match Text.lower words with
  | "true" => .flag true
  | "false" => .flag false
  | _ =>
    match Decimal.wholeOfText? words, Decimal.Double.ofText? words with
    | some n, _ => .whole n
    | none, some d => .double d
    | none, none => .text words

def ofEnvironment (env : List (String × String)) : Overlay :=
  env.filterMap fun v => (settingName? v.1).map fun name => (name, settingOfWords v.2)

/-! ## Together -/

/-- What is set when no source sets it. -/
def defaults : Overlay :=
  [("namespaces.enabled", .flag false), ("namespaces.default_order", .text "child_first"),
    ("bridge.manifest_prefix", .text "META-INF/services/"), ("logging.level", .text "info")]

/-- **Puts an overlay over what earlier ones say.** -/
def onto (below : Setting) (o : Overlay) : Setting :=
  o.foldl (fun v m => Setting.assign m.2 (KeyPath.ofName m.1) v) below

/-- An overlay that can be put over others. -/
def check (o : Overlay) : Except LoadFault Overlay :=
  if o.any fun m => (KeyPath.ofName m.1).isOutOfReach then .error .noRoom else .ok o

/-- What overlays say together, later ones over earlier ones. -/
def merged (os : List Overlay) : Overlay :=
  (os.foldl onto (.table [])).members

end Overlay

/-- The configuration that sources give: what they say together lies over a bottom. -/
def Config.ofOverlays (bottom : Overlay) (os : List Overlay) : Except LoadFault Config :=
  let settings := Overlay.onto (Overlay.onto (.table []) bottom) (Overlay.merged os)
  match Config.read Setting.dialect settings with
  | some c => .ok c
  | none => .error .shape

end Tenancy
