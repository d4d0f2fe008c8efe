import Tenancy.Bytes.Basic

/-!
# Deflate/Bits — reading bits, low bit first

A reader holds the bits of the byte it has begun and the bytes after it. Whole bytes can be read
only from the start of a byte.
-/

namespace Tenancy.Deflate

/-- Why a stream cannot be read: its data break a rule, or they end too early. -/
inductive Fault where
  | corrupt
  | truncated
  deriving Repr, DecidableEq

def Fault.message : Fault → String
  | .corrupt => "corrupt deflate stream"
  | .truncated => "incomplete deflate stream"

structure Reader where
  /-- The unread bits of the byte that has been begun, low bit first. -/
  begun : List Bool
  rest : Bytes

namespace Reader

def ofBytes (bs : Bytes) : Reader :=
  ⟨[], bs⟩

def byteBits (b : UInt8) : List Bool :=
  (List.range 8).map fun i => b.toNat.testBit i

/-- The number of unread bits. -/
def remaining (r : Reader) : Nat :=
  r.begun.length + 8 * r.rest.length

def bit (r : Reader) : Except Fault (Bool × Reader) :=
  match r.begun, r.rest with
  | b :: bs, rest => .ok (b, ⟨bs, rest⟩)
  | [], byte :: rest =>
    match byteBits byte with
    | b :: bs => .ok (b, ⟨bs, rest⟩)
    | [] => .error .truncated
  | [], [] => .error .truncated

/-- A number of `n` bits, its low bit first. -/
def number : Nat → Reader → Except Fault (Nat × Reader)
  | 0, r => .ok (0, r)
  | n + 1, r => do
    let (b, r) ← r.bit
    let (v, r) ← number n r
    .ok (b.toNat + 2 * v, r)

/-- Drops the unread bits of the byte that has been begun. -/
def align (r : Reader) : Reader :=
  ⟨[], r.rest⟩

/-- The next `n` whole bytes. -/
def bytes (n : Nat) (r : Reader) : Except Fault (Bytes × Reader) :=
  if n ≤ r.rest.length then .ok (r.rest.take n, ⟨[], r.rest.drop n⟩) else .error .truncated

end Reader

end Tenancy.Deflate
