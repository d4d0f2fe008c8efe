import Tenancy.Artifact.Entry
import Tenancy.Artifact.Header
import Tenancy.Error

/-!
# Artifact/Materializer — from stored bytes to an artifact

An artifact carries its bytes, where it was defined and the ids that it links to. What reads the
links off the bytes differs from platform to platform; a configuration can name two such forms.
-/

namespace Tenancy

/-- Where an artifact was defined. -/
structure Origin where
  context : ContextId
  name : String
  deriving Repr, DecidableEq

structure Artifact where
  key : ArtifactKey
  bytes : Bytes
  origin : Origin
  /-- The ids of code units that it links to. -/
  links : List String
  deriving Repr, DecidableEq

/-- **How stored bytes become an artifact**: by the ids that they link to, or by what is wrong with
them.  An artifact bears its key, its bytes and where it was defined in any case, and what cannot
be materialized is corrupt, never missing. -/
structure Materializer where
  links : ArtifactKey → Bytes → Except Corruption (List String)

namespace Materializer

/-- All bytes are taken as they are, and link to nothing. -/
def raw : Materializer where
  links _ _ := .ok []

/-- Code units link to what their header declares; data files are not read. -/
def descriptor : Materializer where
  links key bytes :=
    match key.kind with
    | .code =>
      match UnitHeader.ofUnit bytes with
      | .ok h => .ok h.links
      | .error f => .error (.header f)
    | .dataFile => .ok []

def materialize (m : Materializer) (key : ArtifactKey) (bytes : Bytes) (origin : Origin) :
    Except NamespaceError Artifact :=
  match m.links key bytes with
  | .ok links => .ok ⟨key, bytes, origin, links⟩
  | .error f => .error (.corruptArtifact key f)

/-- Unpacks a stored entry and materializes it. -/
def ofEntry (m : Materializer) (e : Entry) (key : ArtifactKey) (origin : Origin) :
    Except NamespaceError Artifact :=
  match e.decompress with
  | .ok bytes => m.materialize key bytes origin
  | .error f => .error (.corruptArtifact e.key (.stream f))

end Materializer

/-! ## The forms with a name -/

/-- The form that a configuration names. -/
inductive MaterializerKind where
  | raw
  | descriptor
  deriving Repr, DecidableEq

namespace MaterializerKind

/-- The word for the form in configuration and JSON. -/
def word : MaterializerKind → String
  | .raw => "raw"
  | .descriptor => "descriptor"

def ofWord? : String → Option MaterializerKind
  | "raw" => some .raw
  | "descriptor" => some .descriptor
  | _ => none

def toMaterializer : MaterializerKind → Materializer
  | .raw => .raw
  | .descriptor => .descriptor

end MaterializerKind

end Tenancy
