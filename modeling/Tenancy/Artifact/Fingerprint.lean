import Tenancy.Artifact.Entry
import Tenancy.Artifact.Order
import Tenancy.Bytes.Hex
import Tenancy.Digest.Blake3

/-!
# Artifact/Fingerprint — one digest for a map and its order

The digest is taken of a byte string from which order and map can be read back: every part whose
length varies follows its length, and the entries come in key order.
-/

namespace Tenancy.Fingerprint

def orderTag : ResolutionOrder → Bytes
  | .childFirst => utf8 "child-first"
  | .parentFirst => utf8 "parent-first"

def kindTag : ArtifactKind → UInt8
  | .code => 99
  | .dataFile => 102

/-- A length in eight bytes, high byte first. -/
def lengthBytes (n : Nat) : Bytes :=
  Bytes.bigEndian 8 n

def entryBytes (p : ArtifactKey × Entry) : Bytes :=
  kindTag p.1.kind :: (lengthBytes (utf8 p.1.id).length ++ utf8 p.1.id ++
    lengthBytes p.2.plainLength ++ lengthBytes p.2.payload.length ++ p.2.payload)

/-- What the digest is taken of. -/
def encoding (m : ArtifactMap) (order : ResolutionOrder) : Bytes :=
  orderTag order ++ m.pairs.flatMap entryBytes

end Fingerprint

/-- The 32-byte digest of a map and the order it is resolved in. -/
def fingerprint (m : ArtifactMap) (order : ResolutionOrder) : Bytes :=
  Blake3.hash (Fingerprint.encoding m order)

/-- The digits of the first eight bytes. -/
def shortHex (digest : Bytes) : String :=
  Hex.encode (digest.take 8)

end Tenancy
