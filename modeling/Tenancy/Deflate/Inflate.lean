import Tenancy.Deflate.Huffman

/-!
# Deflate/Inflate — unpacking a compressed stream

A stream is a sequence of blocks: stored bytes, or literals and matches under the fixed code or
under one that the block describes. A match copies from the last 32768 bytes; the bytes before the
first one are zeros.
-/

namespace Tenancy.Deflate

/-! ## The two alphabets -/

def fixedLiterals : Code :=
  .ofLengths (List.replicate 144 8 ++ List.replicate 112 9 ++ List.replicate 24 7 ++
    List.replicate 8 8)

def fixedDistances : Code :=
  .ofLengths (List.replicate 32 5)

/-- Base length and number of extra bits of the match symbols from 257 on. -/
def matchLengths : Array (Nat × Nat) :=
  #[(3, 0), (4, 0), (5, 0), (6, 0), (7, 0), (8, 0), (9, 0), (10, 0), (11, 1), (13, 1), (15, 1),
    (17, 1), (19, 2), (23, 2), (27, 2), (31, 2), (35, 3), (43, 3), (51, 3), (59, 3), (67, 4),
    (83, 4), (99, 4), (115, 4), (131, 5), (163, 5), (195, 5), (227, 5), (258, 0)]

/-- Base distance and number of extra bits of the distance symbols. -/
def matchDistances : Array (Nat × Nat) :=
  #[(1, 0), (2, 0), (3, 0), (4, 0), (5, 1), (7, 1), (9, 2), (13, 2), (17, 3), (25, 3), (33, 4),
    (49, 4), (65, 5), (97, 5), (129, 6), (193, 6), (257, 7), (385, 7), (513, 8), (769, 8),
    (1025, 9), (1537, 9), (2049, 10), (3073, 10), (4097, 11), (6145, 11), (8193, 12), (12289, 12),
    (16385, 13), (24577, 13)]

/-- A base value with the number of its extra bits, those bits being read. -/
def extended (entry : Option (Nat × Nat)) (r : Reader) : Except Fault (Nat × Reader) :=
  match entry with
  | none => .error .corrupt
  | some (base, extra) => do
    let (v, r) ← r.number extra
    .ok (base + v, r)

/-- Copies `n` bytes from `distance` back, byte by byte, so that a copy may read what it wrote. -/
def copyMatch (distance : Nat) : Nat → Array UInt8 → Array UInt8
  | 0, out => out
  | n + 1, out =>
    let b := if distance ≤ out.size then out[out.size - distance]?.getD 0 else 0
    copyMatch distance n (out.push b)

/-! ## A coded block -/

/-- Literals and matches up to the end-of-block symbol. Every symbol takes a bit, so `fuel` above
the number of bits is never used up. -/
def codedBlock (literals distances : Code) :
    Nat → Array UInt8 → Reader → Except Fault (Array UInt8 × Reader)
  | 0, _, _ => .error .corrupt
  | fuel + 1, out, r => do
    let (s, r) ← literals.symbol r
    if s < 256 then
      codedBlock literals distances fuel (out.push (UInt8.ofNat s)) r
    else if s == 256 then
      .ok (out, r)
    else
      let (length, r) ← extended matchLengths[s - 257]? r
      let (d, r) ← distances.symbol r
      let (distance, r) ← extended matchDistances[d]? r
      codedBlock literals distances fuel (copyMatch distance length out) r

/-! ## The codes that a block describes -/

/-- The order in which the lengths of the length code are written. -/
def lengthOrder : List Nat :=
  [16, 17, 18, 0, 8, 7, 9, 6, 10, 5, 11, 4, 12, 3, 13, 2, 14, 1, 15]

/-- Reads three-bit lengths for the given symbols. -/
def shortLengths : List Nat → Reader → Except Fault (List (Nat × Nat) × Reader)
  | [], r => .ok ([], r)
  | s :: ss, r => do
    let (v, r) ← r.number 3
    let (rest, r) ← shortLengths ss r
    .ok ((s, v) :: rest, r)

/-- Reads `want` code lengths; `rev` holds those read so far, the latest first. A run may not pass
the end. -/
def codeLengths (code : Code) (want : Nat) :
    Nat → List Nat → Reader → Except Fault (List Nat × Reader)
  | 0, _, _ => .error .corrupt
  | fuel + 1, rev, r =>
    if want ≤ rev.length then
      if rev.length == want then .ok (rev.reverse, r) else .error .corrupt
    else do
      let (s, r) ← code.symbol r
      if s < 16 then
        codeLengths code want fuel (s :: rev) r
      else if s == 16 then
        match rev with
        | [] => .error .corrupt
        | l :: _ =>
          let (n, r) ← r.number 2
          codeLengths code want fuel (List.replicate (n + 3) l ++ rev) r
      else if s == 17 then
        let (n, r) ← r.number 3
        codeLengths code want fuel (List.replicate (n + 3) 0 ++ rev) r
      else
        let (n, r) ← r.number 7
        codeLengths code want fuel (List.replicate (n + 11) 0 ++ rev) r

/-- The codes for literals and distances at the head of a block. The two last literals and the two
last distances of the alphabets stand for nothing, and no length may be given for them. -/
def describedCodes (r : Reader) : Except Fault (Code × Code × Reader) := do
  let (l, r) ← r.number 5
  let (d, r) ← r.number 5
  let (h, r) ← r.number 4
  if 29 < l || 29 < d then .error .corrupt
  let (short, r) ← shortLengths (lengthOrder.take (h + 4)) r
  let lengths := (List.range 19).map fun s => (short.lookup s).getD 0
  let lengthCode := Code.ofLengths lengths
  if !lengthCode.isComplete then .error .corrupt
  let want := l + 257 + (d + 1)
  let (all, r) ← codeLengths lengthCode want (want + 1) [] r
  let literals := Code.ofLengths (all.take (l + 257))
  let distances := Code.ofLengths (all.drop (l + 257))
  if !(literals.isUsable && distances.isUsable) then .error .corrupt
  .ok (literals, distances, r)

/-! ## Blocks up to the final one -/

/-- A stored block: two bytes of length, their complement, and that many bytes. -/
def storedBlock (out : Array UInt8) (r : Reader) : Except Fault (Array UInt8 × Reader) := do
  let (head, r) ← r.align.bytes 4
  let n := Bytes.ofLittleEndian (head.take 2)
  let c := Bytes.ofLittleEndian (head.drop 2)
  if n + c ≠ 65535 then .error .corrupt
  let (data, r) ← r.bytes n
  .ok (out ++ data.toArray, r)

def block (out : Array UInt8) (r : Reader) : Except Fault (Bool × Array UInt8 × Reader) := do
  let (final, r) ← r.bit
  let (kind, r) ← r.number 2
  match kind with
  | 0 => do
    let (out, r) ← storedBlock out r
    .ok (final, out, r)
  | 1 => do
    let (out, r) ← codedBlock fixedLiterals fixedDistances (r.remaining + 1) out r
    .ok (final, out, r)
  | 2 => do
    let (literals, distances, r) ← describedCodes r
    let (out, r) ← codedBlock literals distances (r.remaining + 1) out r
    .ok (final, out, r)
  | _ => .error .corrupt

/-- Blocks up to the final one. Every block takes three bits, so `fuel` above the number of bits is
never used up. -/
def blocks : Nat → Array UInt8 → Reader → Except Fault (Array UInt8 × Reader)
  | 0, _, _ => .error .corrupt
  | fuel + 1, out, r => do
    let (final, out, r) ← block out r
    if final then .ok (out, r) else blocks fuel out r

/-- The bytes that a stream unpacks to, and the bytes after the one it ends in. -/
def inflate (bs : Bytes) : Except Fault (Bytes × Bytes) := do
  let (out, r) ← blocks (8 * bs.length + 1) #[] (.ofBytes bs)
  .ok (out.toList, r.rest)

end Tenancy.Deflate
