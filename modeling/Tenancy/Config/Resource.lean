import Tenancy.Bundle.Walk
import Tenancy.Artifact.Naming
import Tenancy.Artifact.Order
import Tenancy.Dialect
import Tenancy.Text.Blank

/-!
# Config/Resource — one configured resource

A resource takes its payload from a file, from hex digits or from a directory, exactly one of them.
Its kind is inferred when it is not given: a directory is an archive, as is a file with an archive's
extension, and anything else is a code unit.
-/

namespace Tenancy

structure ResourceConfig where
  id : String
  kind : Option BundleKind := none
  path : Option String := none
  payloadHex : Option String := none
  dir : Option String := none
  deriving Repr, DecidableEq

namespace ResourceConfig

/-- A definition carried inline. -/
def ofDefinition (d : Definition) : ResourceConfig :=
  { id := d.id, kind := some d.kind, payloadHex := some (Hex.encode d.payload) }

def sourceCount (r : ResourceConfig) : Nat :=
  [r.path.isSome, r.payloadHex.isSome, r.dir.isSome].count true

def validate (r : ResourceConfig) : Except ResourceIssue Unit :=
  if Text.allBlank r.id then .error .blankId
  else if r.sourceCount ≠ 1 then .error (.notOneSource r.id)
  else if r.dir.isSome && r.kind.any (· ≠ .archive) then .error (.directoryKind r.id)
  else .ok ()

def resolvedKind (r : ResourceConfig) : BundleKind :=
  match r.kind with
  | some kind => kind
  | none =>
    if r.dir.isSome then .archive
    else if r.path.any fun p => Naming.hasExtension p ["jar", "zip"] then .archive
    else .code

/-- The bytes written in hex, blanks around them not counting. -/
def inlinePayload (r : ResourceConfig) : Except NamespaceError Bytes :=
  match Hex.decode (Text.encode (Text.trim (r.payloadHex.getD "").toList)) with
  | .ok bytes => .ok bytes
  | .error e => .error (.resourceFormat r.id (.hex e))

/-- Reads the resource. -/
def toDefinition (t : Files.Tree) (r : ResourceConfig) : Except NamespaceError Definition :=
  match r.validate with
  | .error i => .error (.invalidArgument (.resource i))
  | .ok () =>
    match r.dir, r.path with
    | some dir, _ => Walk.pack t {} dir r.id
    | none, some path =>
      match t.read path with
      | .ok bytes => .ok ⟨r.id, r.resolvedKind, bytes⟩
      | .error e => .error (.io (.file e))
    | none, none => r.inlinePayload.map fun bytes => ⟨r.id, r.resolvedKind, bytes⟩

/-! ## JSON -/

def toJson (r : ResourceConfig) : Json :=
  .obj [("id", .str r.id), ("kind", .opt (r.kind.map fun k => .str k.word)),
    ("path", .opt (r.path.map .str)), ("payload_hex", .opt (r.payloadHex.map .str)),
    ("dir", .opt (r.dir.map .str))]

def read {V : Type} (d : Dialect V) (v : V) : Option ResourceConfig :=
  match d.record? ["id", "kind", "path", "payload_hex", "dir"] v with
  | some [id, kind, path, payloadHex, dir] => do
    let id ← Dialect.field? d.text? none id
    let kind ← Dialect.field? (d.optional? (d.choiceOf? BundleKind.ofWord?)) (some none) kind
    let path ← Dialect.field? (d.optional? d.text?) (some none) path
    let payloadHex ← Dialect.field? (d.optional? d.text?) (some none) payloadHex
    let dir ← Dialect.field? (d.optional? d.text?) (some none) dir
    some { id, kind, path, payloadHex, dir }
  | _ => none

def ofJson? (j : Json) : Option ResourceConfig :=
  read Json.dialect j

end ResourceConfig

end Tenancy
