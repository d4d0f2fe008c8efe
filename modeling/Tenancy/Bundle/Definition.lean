import Tenancy.Bytes.Hex
import Tenancy.Json.Shape
import Tenancy.Text.Quoted

/-!
# Bundle/Definition — what a user hands in

A definition is one code unit, an archive of units and data files, or an archive of archives. In
JSON its payload is written in hex.
-/

namespace Tenancy

inductive BundleKind where
  | code
  | archive
  | archivesInZip
  deriving Repr, DecidableEq

namespace BundleKind

/-- The word for the kind in configuration and JSON. -/
def word : BundleKind → String
  | .code => "code"
  | .archive => "archive"
  | .archivesInZip => "archives_in_zip"

def ofWord? : String → Option BundleKind
  | "code" => some .code
  | "archive" => some .archive
  | "archives_in_zip" => some .archivesInZip
  | _ => none

def ofJson? (j : Json) : Option BundleKind :=
  j.choice?.bind ofWord?

/-- The name of the kind in descriptions of a definition. -/
def title : BundleKind → String
  | .code => "Code"
  | .archive => "Archive"
  | .archivesInZip => "ArchivesInZip"

end BundleKind

structure Definition where
  /-- The unit's name for code, any label for archives. -/
  id : String
  kind : BundleKind
  payload : Bytes
  deriving Repr, DecidableEq

namespace Definition

def toJson (d : Definition) : Json :=
  .obj [("id", .str d.id), ("kind", .str d.kind.word), ("payload", .str (Hex.encode d.payload))]

/-- Bytes written in hex. -/
def payloadOfJson? (j : Json) : Option Bytes :=
  j.asText?.bind fun s => (Hex.decode (utf8 s)).toOption

def ofJson? (j : Json) : Option Definition :=
  match j.record? ["id", "kind", "payload"] with
  | some [id, kind, payload] => do
    let id ← Json.field? Json.asText? none id
    let kind ← Json.field? BundleKind.ofJson? none kind
    let payload ← Json.field? payloadOfJson? none payload
    some { id, kind, payload }
  | _ => none

/-- A description that tells the length of the payload and not its bytes. -/
def describe (d : Definition) : String :=
  "ResourceDefinition \x7b id: " ++ Text.quoted d.id ++ ", kind: " ++ d.kind.title ++
    s!", payload_len: {d.payload.length}" ++ " \x7d"

end Definition

end Tenancy
