import Tenancy.Bytes.Basic

/-!
# Checksum/Crc32 — the check value of archive entries

The reflected polynomial is `EDB88320`; the register starts and ends inverted.
-/

namespace Tenancy.Crc32

/-- Divides one bit out of the register. -/
def shift (c : UInt32) : UInt32 :=
  if c &&& 1 == 1 then (c >>> 1) ^^^ 0xEDB88320 else c >>> 1

/-- What the register becomes for each low byte. -/
def table : Array UInt32 :=
  (Array.range 256).map fun n => Nat.repeat shift 8 (UInt32.ofNat n)

def step (c : UInt32) (b : UInt8) : UInt32 :=
  (table[((c ^^^ b.toUInt32) &&& 0xFF).toNat]?.getD 0) ^^^ (c >>> 8)

def checksum (bs : Bytes) : UInt32 :=
  (bs.foldl step 0xFFFFFFFF) ^^^ 0xFFFFFFFF

end Tenancy.Crc32
