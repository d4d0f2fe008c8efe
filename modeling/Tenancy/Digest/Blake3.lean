import Tenancy.Bytes.Basic

/-!
# Digest/Blake3 — the hash that fingerprints are made with

The input is cut into chunks of 1024 bytes and each chunk into blocks of 64. The blocks of a chunk
are compressed one after another, the chunks are joined in a binary tree whose left part is the
largest power of two below the whole, and the digest is the first 32 bytes of the root.
-/

namespace Tenancy.Blake3

/-! ## The compression function mixes sixteen words seven times -/

def initial : Array UInt32 :=
  #[0x6A09E667, 0xBB67AE85, 0x3C6EF372, 0xA54FF53A, 0x510E527F, 0x9B05688C, 0x1F83D9AB, 0x5BE0CD19]

def schedule : Array Nat :=
  #[2, 6, 3, 10, 7, 0, 4, 13, 1, 11, 12, 5, 9, 14, 15, 8]

def rotateRight (x : UInt32) (n : UInt32) : UInt32 :=
  (x >>> n) ||| (x <<< (32 - n))

def word (v : Array UInt32) (i : Nat) : UInt32 :=
  v[i]?.getD 0

/-- Mixes two message words into one column or diagonal. -/
def mix (v : Array UInt32) (a b c d : Nat) (x y : UInt32) : Array UInt32 :=
  let va := word v a + word v b + x
  let vd := rotateRight (word v d ^^^ va) 16
  let vc := word v c + vd
  let vb := rotateRight (word v b ^^^ vc) 12
  let va := va + vb + y
  let vd := rotateRight (vd ^^^ va) 8
  let vc := vc + vd
  let vb := rotateRight (vb ^^^ vc) 7
  (((v.setIfInBounds a va).setIfInBounds b vb).setIfInBounds c vc).setIfInBounds d vd

/-- One round: the four columns, then the four diagonals. -/
def round (v m : Array UInt32) : Array UInt32 :=
  let v := mix v 0 4 8 12 (word m 0) (word m 1)
  let v := mix v 1 5 9 13 (word m 2) (word m 3)
  let v := mix v 2 6 10 14 (word m 4) (word m 5)
  let v := mix v 3 7 11 15 (word m 6) (word m 7)
  let v := mix v 0 5 10 15 (word m 8) (word m 9)
  let v := mix v 1 6 11 12 (word m 10) (word m 11)
  let v := mix v 2 7 8 13 (word m 12) (word m 13)
  mix v 3 4 9 14 (word m 14) (word m 15)

/-- `n` rounds, the message words permuted between them. -/
def rounds : Nat → Array UInt32 → Array UInt32 → Array UInt32
  | 0, v, _ => v
  | n + 1, v, m => rounds n (round v m) (schedule.map (word m))

/-- A node of the tree before it is compressed: eight words from before it, its block, the number
of its chunk, the length of its block and its flags. -/
structure Node where
  before : Array UInt32
  block : Array UInt32
  counter : Nat
  length : Nat
  flags : UInt32

def Node.compress (n : Node) (extra : UInt32) : Array UInt32 :=
  let v := n.before ++ #[word initial 0, word initial 1, word initial 2, word initial 3,
    UInt32.ofNat n.counter, UInt32.ofNat (n.counter / 0x100000000), UInt32.ofNat n.length,
    n.flags ||| extra]
  let v := rounds 7 v n.block
  (Array.range 8).map fun i => word v i ^^^ word v (i + 8)

/-! ## Blocks make chunks and chunks make the tree -/

def chunkStart : UInt32 := 1
def chunkEnd : UInt32 := 2
def parentNode : UInt32 := 4
def rootNode : UInt32 := 8

/-- Sixteen words of a block, missing bytes read as zero. -/
def blockWords (bs : Bytes) : Array UInt32 :=
  let a := bs.toArray
  (Array.range 16).map fun i =>
    UInt32.ofNat (Bytes.ofLittleEndian ((List.range 4).map fun j => a[4 * i + j]?.getD 0))

/-- A list cut into pieces of `size`, the last one being what is left. -/
def pieces (size : Nat) : Nat → Bytes → List Bytes
  | 0, bs => [bs]
  | n + 1, bs => if bs.length ≤ size then [bs] else bs.take size :: pieces size n (bs.drop size)

/-- The last node of a chunk whose first blocks have been compressed to `before`. -/
def chunkFrom (counter : Nat) (flags : UInt32) (before : Array UInt32) : List Bytes → Node
  | [] => ⟨before, blockWords [], counter, 0, flags ||| chunkEnd⟩
  | [b] => ⟨before, blockWords b, counter, b.length, flags ||| chunkEnd⟩
  | b :: bs => chunkFrom counter 0 (Node.compress ⟨before, blockWords b, counter, 64, flags⟩ 0) bs

def chunk (counter : Nat) (bs : Bytes) : Node :=
  chunkFrom counter chunkStart initial (pieces 64 15 bs)

/-- The largest power of two below `n`, for `n` of at least two. -/
def leftSize (n : Nat) : Nat :=
  Nat.pow 2 (Nat.log2 (n - 1))

theorem leftSize_pos (n : Nat) : 0 < leftSize n :=
  Nat.pow_pos (by decide)

theorem leftSize_lt {n : Nat} (h : 2 ≤ n) : leftSize n < n := by
  have h' : leftSize n ≤ n - 1 := Nat.log2_self_le (by omega)
  omega

/-- Joins the nodes of neighbouring chunks into the root of their tree. -/
def join (nodes : List Node) : Node :=
  match nodes with
  | [] => chunk 0 []
  | [n] => n
  | a :: b :: rest =>
    let all := a :: b :: rest
    let k := leftSize all.length
    let left := join (all.take k)
    let right := join (all.drop k)
    ⟨initial, left.compress 0 ++ right.compress 0, 0, 64, parentNode⟩
termination_by nodes.length
decreasing_by
  · have := leftSize_lt (n := (a :: b :: rest).length) (by simp)
    simp only [List.length_take]
    omega
  · have := leftSize_pos (a :: b :: rest).length
    simp only [List.length_drop, List.length_cons] at *
    omega

/-- The 32 bytes of the digest. -/
def hash (bs : Bytes) : Bytes :=
  let chunks := pieces 1024 (bs.length / 1024) bs
  let nodes := chunks.mapIdx fun i c => chunk i c
  ((join nodes).compress rootNode).toList.flatMap fun w => Bytes.littleEndian 4 w.toNat

end Tenancy.Blake3
