import Tenancy.Bytes.Basic

/-!
# Checksum/Adler32 — the check value after a compressed payload

Two sums modulo 65521, the second one of the running values of the first.
-/

namespace Tenancy.Adler32

def step (s : Nat × Nat) (b : UInt8) : Nat × Nat :=
  let low := (s.1 + b.toNat) % 65521
  (low, (s.2 + low) % 65521)

def checksum (bs : Bytes) : Nat :=
  let s := bs.foldl step (1, 0)
  s.2 * 65536 + s.1

end Tenancy.Adler32
