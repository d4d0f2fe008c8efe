import Tenancy.Config.Overlay
import Tenancy.Files.Tree

/-!
# Config/Load — where settings come from

The defaults lie below everything else. Over them lie the files of a directory, one for every use
and one for the environment that is named, or one file that is chosen; over these the variables of
the environment.
-/

namespace Tenancy

/-- The variables that are set, with their values. -/
abbrev Environment := List (String × String)

inductive SourceFormat where
  | toml
  | json
  deriving Repr, DecidableEq

namespace SourceFormat

def ofExtension? : String → Option SourceFormat
  | "toml" => some .toml
  | "json" => some .json
  | _ => none

def overlay? : SourceFormat → String → Option Overlay
  | .toml => Overlay.ofTomlText?
  | .json => Overlay.ofJsonText?

/-- The overlay that a text holds. -/
def overlay (f : SourceFormat) (text : String) : Except LoadFault Overlay :=
  match f.overlay? text with
  | some l => l.check
  | none => .error .parse

end SourceFormat

namespace Config

/-! ## Files -/

/-- The extension of a file, without its point; a point at the beginning of the name is part of
it. -/
def extensionOf (path : String) : String :=
  let name := ((Files.parts path).getLast?.getD "").toList
  let ending := name.reverse.takeWhile (· != '.')
  if ending.length + 1 < name.length then String.ofList ending.reverse else ""

/-- What an extension is put behind, for a path that ends in a name. -/
def stem? (path : String) : Option String :=
  match (Files.parts path).getLast? with
  | none => none
  | some ".." => none
  | some _ => some (String.intercalate "/" (Files.parts path))

/-- The file that a path names: itself, or with the extension of a format behind it. -/
def findFile? (t : Files.Tree) (path : String) : Option (String × SourceFormat) :=
  if t.isFile path then (SourceFormat.ofExtension? (extensionOf path)).map fun f => (path, f)
  else do
    let stem ← stem? path
    if t.isFile (stem ++ ".toml") then some (stem ++ ".toml", .toml)
    else if t.isFile (stem ++ ".json") then some (stem ++ ".json", .json)
    else none

/-- The text of a file with its format. -/
def readFile? (t : Files.Tree) (path : String) : Option (String × SourceFormat) := do
  let (found, format) ← findFile? t path
  let bytes ← (t.read found).toOption
  let cs ← Text.decode? bytes
  some (String.ofList cs, format)

/-- A file that has to be there. -/
def fileOverlay (t : Files.Tree) (path : String) : Except LoadFault Overlay :=
  match readFile? t path with
  | some (text, format) => format.overlay text
  | none => .error .read

/-- A file that counts only if it can be read. -/
def optionalOverlay (t : Files.Tree) (path : String) : Except LoadFault Overlay :=
  match readFile? t path with
  | some (text, format) => format.overlay text
  | none => .ok []

/-- The path of a file in a directory. -/
def inDirectory (dir name : String) : String :=
  if dir.isEmpty || dir.toList.getLast? == some '/' then dir ++ name else dir ++ "/" ++ name

/-- The files of a directory that are there, lower ones first. -/
def directoryFiles (t : Files.Tree) (env : Environment) (dir : String) : List String :=
  let named := (env.lookup "NSLOAD_ENV").map fun e => "nsload." ++ e ++ ".toml"
  (("nsload.toml" :: named.toList).map (inDirectory dir)).filter t.exists?

/-! ## Loading -/

/-- **The configuration of a directory.** -/
def load (t : Files.Tree) (env : Environment) (dir : String) : Except LoadFault Config := do
  let files ← (directoryFiles t env dir).mapM (optionalOverlay t)
  let given ← (Overlay.ofEnvironment env).check
  ofOverlays Overlay.defaults (files ++ [given])

/-- The configuration of one file. -/
def loadFile (t : Files.Tree) (env : Environment) (path : String) : Except LoadFault Config := do
  let file ← fileOverlay t path
  let given ← (Overlay.ofEnvironment env).check
  ofOverlays Overlay.defaults [file, given]

/-- The configuration that a TOML text gives, whatever the environment says. -/
def ofToml (text : String) : Except LoadFault Config := do
  let overlay ← SourceFormat.toml.overlay text
  ofOverlays Overlay.defaults [overlay]

end Config

end Tenancy
