import Tenancy.Deflate.Bits

/-!
# Deflate/Huffman — codes given by their lengths

Symbols of one length have consecutive codes in symbol order, and shorter codes come first. A set
of lengths is usable when its codes fill the code space exactly; a set without codes, or with a
single code of one bit, may leave space over.
-/

namespace Tenancy.Deflate

structure Code where
  /-- How many symbols have each code length from 0 to 15. -/
  counts : Array Nat
  /-- The coded symbols, by length and then by number. -/
  symbols : Array Nat

namespace Code

/-- The code in which symbol `i` has the length `lengths[i]`, and no code if that is 0. -/
def ofLengths (lengths : List Nat) : Code where
  counts := (Array.range 16).map fun n => lengths.count n
  symbols := ((List.range 15).flatMap fun n =>
    (lengths.zipIdx.filter fun p => p.1 == n + 1).map (·.2)).toArray

/-- The part of the code space in use, a code of length `n` taking `2 ^ (15 - n)` of `2 ^ 15`. -/
def filled (c : Code) : Nat :=
  (List.range 15).foldl (fun k n => k + c.counts[n + 1]?.getD 0 * Nat.pow 2 (14 - n)) 0

def isComplete (c : Code) : Bool :=
  c.filled == 32768

/-- Usable for literals, lengths and distances. -/
def isUsable (c : Code) : Bool :=
  c.isComplete || c.symbols.size == 0 ||
    (c.symbols.size == 1 && c.counts[1]?.getD 0 == 1)

/-- Reads on after `len` bits, the value `code` beyond the codes of those lengths, of which
`skipped` symbols have been passed. -/
def symbolFrom (c : Code) : Nat → Nat → Nat → Nat → Reader → Except Fault (Nat × Reader)
  | 0, _, _, _, _ => .error .corrupt
  | n + 1, len, code, skipped, r => do
    let (b, r) ← r.bit
    let code := 2 * code + b.toNat
    let here := c.counts[len + 1]?.getD 0
    if code < here then .ok (c.symbols[skipped + code]?.getD 0, r)
    else if c.symbols.size ≤ skipped + code then .error .corrupt
    else symbolFrom c n (len + 1) (code - here) (skipped + here) r

/-- The next symbol. Bits that begin no code are refused as soon as they are there: too few symbols
are left to take all codes up to theirs. -/
def symbol (c : Code) (r : Reader) : Except Fault (Nat × Reader) :=
  symbolFrom c 15 0 0 0 r

end Code

end Tenancy.Deflate
