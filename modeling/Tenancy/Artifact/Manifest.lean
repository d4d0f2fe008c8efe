import Tenancy.Bytes.Basic
import Tenancy.Text.Blank
import Tenancy.Text.Utf8

/-!
# Artifact/Manifest — the providers that a bundle lists

A manifest names one provider a line. A `#` begins a comment, blanks around a name do not count,
and lines with nothing else are skipped. Ill-formed text is read with U+FFFD.
-/

namespace Tenancy.Manifest

/-- What a line says before its comment. -/
def nameOf (line : List Char) : List Char :=
  Text.trim (line.takeWhile (· != '#'))

/-- The names in a text, in order. A carriage return at the end of a line is blank. -/
def names (cs : List Char) : List String :=
  ((cs.splitOn '\n').map nameOf).filterMap fun n =>
    if n.isEmpty then none else some (String.ofList n)

def parse (bs : Bytes) : List String :=
  names (Text.decodeLossy bs)

end Tenancy.Manifest
