import Tenancy.Artifact.Key
import Tenancy.Zlib

/-!
# Artifact/Entry — artifacts as they are stored

An entry holds its content compressed and is unpacked only when it is resolved; the length before
compression is recorded with it and has no part in reading.
-/

namespace Tenancy

structure Entry where
  key : ArtifactKey
  /-- The compressed content. -/
  payload : Bytes
  /-- The length of the content before compression. -/
  plainLength : Nat
  deriving Repr, DecidableEq

namespace Entry

def compress (key : ArtifactKey) (content : Bytes) : Entry :=
  ⟨key, Zlib.compress content, content.length⟩

def decompress (e : Entry) : Except Deflate.Fault Bytes :=
  Zlib.decompress e.payload

end Entry

/-- The entries of one extraction, by key. -/
abbrev ArtifactMap := Table ArtifactKey Entry

end Tenancy
