import Tenancy.Artifact.Entry

/-!
# Proofs/Zlib — what is stored is read back

Writing keeps the content in stored blocks, each full but the last, and reading takes one block
after another off the stream until the last:

    decompress (compress bs) = ok bs

(`Zlib.decompress_compress`).  A block ends where a byte does, so what follows it does not matter.
-/

namespace Tenancy

namespace Deflate

/-! ## One stored block -/

/-- The first byte of a stored block tells whether it is the last one. -/
theorem bit_head (final : Bool) (rest : Bytes) :
    (Reader.ofBytes ((if final then 1 else 0) :: rest)).bit =
      .ok (final, ⟨List.replicate 7 false, rest⟩) := by
  cases final <;> rfl

/-- And that it is stored. -/
theorem number_head (rest : Bytes) :
    Reader.number 2 ⟨List.replicate 7 false, rest⟩ = .ok (0, ⟨List.replicate 5 false, rest⟩) :=
  rfl

theorem bytes_append {bs : Bytes} {n : Nat} (h : bs.length = n) (tail : Bytes) :
    Reader.bytes n (.ofBytes (bs ++ tail)) = .ok (bs, .ofBytes tail) := by
  have hlength : n ≤ (bs ++ tail).length := by simp [h]
  rw [Reader.bytes, Reader.ofBytes, if_pos hlength, List.take_left' h, List.drop_left' h]
  rfl

/-- The length of a stored block and its complement. -/
def lengths (n : Nat) : Bytes :=
  Bytes.littleEndian 2 n ++ Bytes.littleEndian 2 (65535 - n)

theorem length_lengths (n : Nat) : (lengths n).length = 4 := by
  simp [lengths]

theorem ofLittleEndian_lengths {n : Nat} (h : n ≤ Zlib.blockLimit) :
    Bytes.ofLittleEndian ((lengths n).take 2) = n ∧
      Bytes.ofLittleEndian ((lengths n).drop 2) = 65535 - n := by
  have hn : n < 65536 := Nat.lt_succ_of_le h
  rw [lengths, List.take_left' (Bytes.length_littleEndian 2 n),
    List.drop_left' (Bytes.length_littleEndian 2 n)]
  exact ⟨Bytes.ofLittleEndian_littleEndian 2 n hn,
    Bytes.ofLittleEndian_littleEndian 2 _ (Nat.lt_succ_of_le (Nat.sub_le 65535 n))⟩

/-- **A stored block is read off the stream**, wherever its first byte was begun. -/
theorem block_storedBlock (out : Array UInt8) (final : Bool) {bs : Bytes} (tail : Bytes)
    (h : bs.length ≤ Zlib.blockLimit) :
    block out (.ofBytes (Zlib.storedBlock final bs ++ tail)) =
      .ok (final, out ++ bs.toArray, .ofBytes tail) := by
  have hblock : Zlib.storedBlock final bs ++ tail =
      (if final then 1 else 0) :: (lengths bs.length ++ (bs ++ tail)) := by
    simp [Zlib.storedBlock, lengths]
  obtain ⟨hlength, hcomplement⟩ := ofLittleEndian_lengths h
  have hsum : ¬ bs.length + (65535 - bs.length) ≠ 65535 := by
    rw [Zlib.blockLimit] at h
    omega
  have hstored : storedBlock out ⟨List.replicate 5 false, lengths bs.length ++ (bs ++ tail)⟩ =
      .ok (out ++ bs.toArray, .ofBytes tail) := by
    have hhead := bytes_append (length_lengths bs.length) (bs ++ tail)
    rw [storedBlock, Reader.align, ← Reader.ofBytes, hhead]
    simp only [bind, Except.bind, hlength, hcomplement, if_neg hsum, bytes_append rfl tail]
  rw [hblock, block, bit_head]
  simp only [bind, Except.bind, number_head, hstored]

/-! ## All blocks -/

/-- **Reading takes off the blocks that were written**, and leaves what comes after them. -/
theorem blocks_storedBlocks (bs tail : Bytes) (out : Array UInt8) {fuel : Nat}
    (h : bs.length < fuel) :
    blocks fuel out (.ofBytes (Zlib.storedBlocks bs ++ tail)) =
      .ok (out ++ bs.toArray, .ofBytes tail) := by
  -- one block after another, each adding to what was read before it
  induction bs using Zlib.storedBlocks.induct generalizing out fuel with
  | case1 bs hlast =>
    obtain ⟨fuel, rfl⟩ : ∃ n, fuel = n + 1 := ⟨fuel - 1, by omega⟩
    rw [Zlib.storedBlocks, if_pos hlast, blocks, block_storedBlock out true tail hlast]
    rfl
  | case2 bs hmore ih =>
    obtain ⟨fuel, rfl⟩ : ∃ n, fuel = n + 1 := ⟨fuel - 1, by omega⟩
    have hfull : (bs.take Zlib.blockLimit).length ≤ Zlib.blockLimit :=
      List.length_take_le _ _
    have hless : (bs.drop Zlib.blockLimit).length < fuel := by
      simp only [List.length_drop, Zlib.blockLimit] at hmore ⊢
      omega
    have hjoined : out ++ (bs.take Zlib.blockLimit).toArray ++ (bs.drop Zlib.blockLimit).toArray =
        out ++ bs.toArray := by
      simp
    rw [Zlib.storedBlocks, if_neg hmore, List.append_assoc, blocks,
      block_storedBlock out false _ hfull]
    exact (ih _ hless).trans (by rw [hjoined])

theorem inflate_storedBlocks (bs tail : Bytes) :
    inflate (Zlib.storedBlocks bs ++ tail) = .ok (bs, tail) := by
  have hlong : bs.length ≤ (Zlib.storedBlocks bs).length := by
    induction bs using Zlib.storedBlocks.induct with
    | case1 bs hlast =>
      rw [Zlib.storedBlocks, if_pos hlast]
      simp [Zlib.storedBlock]
      omega
    | case2 bs hmore ih =>
      rw [Zlib.storedBlocks, if_neg hmore]
      simp [Zlib.storedBlock] at ih ⊢
      omega
  have hfuel : bs.length < 8 * (Zlib.storedBlocks bs ++ tail).length + 1 := by
    rw [List.length_append]
    omega
  rw [inflate, blocks_storedBlocks bs tail #[] hfuel]
  simp [bind, Except.bind, Reader.ofBytes]

end Deflate

namespace Adler32

theorem step_lt (s : Nat × Nat) (b : UInt8) : (step s b).1 < 65521 ∧ (step s b).2 < 65521 :=
  ⟨Nat.mod_lt _ (by decide), Nat.mod_lt _ (by decide)⟩

/-- The check value has four bytes. -/
theorem checksum_lt (bs : Bytes) : checksum bs < Nat.pow 256 4 := by
  have hsums : ∀ s : Nat × Nat, s.1 < 65521 ∧ s.2 < 65521 →
      (bs.foldl step s).1 < 65521 ∧ (bs.foldl step s).2 < 65521 := by
    induction bs with
    | nil => exact fun s h => h
    | cons b bs ih => exact fun s _ => ih _ (step_lt s b)
  have hsum := hsums (1, 0) (by decide)
  rw [checksum]
  show _ < 4294967296
  omega

end Adler32

namespace Zlib

/-- **What is stored is read back.** -/
theorem decompress_compress (bs : Bytes) : decompress (compress bs) = .ok bs := by
  have hcheck : Bytes.ofLittleEndian (((Bytes.bigEndian 4 (Adler32.checksum bs)).take 4).reverse) =
      Adler32.checksum bs := by
    rw [List.take_of_length_le (by simp), Bytes.bigEndian, List.reverse_reverse]
    exact Bytes.ofLittleEndian_littleEndian 4 _ (Adler32.checksum_lt bs)
  have hhead : headAccepted 0x78 0x01 = true := by decide
  rw [compress, decompress, if_pos hhead, Deflate.inflate_storedBlocks]
  simp [bind, Except.bind, hcheck]

end Zlib

namespace Entry

@[simp] theorem decompress_compress (key : ArtifactKey) (content : Bytes) :
    (compress key content).decompress = .ok content :=
  Zlib.decompress_compress content

end Entry

end Tenancy
