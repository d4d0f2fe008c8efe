import Tenancy.Checksum.Adler32
import Tenancy.Deflate.Inflate

/-!
# Zlib — the form in which payloads are stored

A stored payload is a two-byte head, a compressed stream and the Adler-32 of the content. Writing
keeps the content in stored blocks; reading accepts every kind of block and ignores bytes after the
check value.
-/

namespace Tenancy.Zlib

open Deflate (Fault)

/-- The most bytes one stored block holds. -/
def blockLimit : Nat := 65535

def storedBlock (final : Bool) (bs : Bytes) : Bytes :=
  (if final then 1 else 0) :: (Bytes.littleEndian 2 bs.length ++
    Bytes.littleEndian 2 (65535 - bs.length) ++ bs)

/-- The content in stored blocks, all full but the last. -/
def storedBlocks (bs : Bytes) : Bytes :=
  if bs.length ≤ blockLimit then storedBlock true bs
  else storedBlock false (bs.take blockLimit) ++ storedBlocks (bs.drop blockLimit)
termination_by bs.length
decreasing_by
  simp only [List.length_drop, blockLimit] at *
  omega

/-- One way to write a content. What is written is not part of what the library says of stored
payloads: other writers choose other blocks, and all that is relied on is that the content reads
back (`decompress_compress`). -/
def compress (bs : Bytes) : Bytes :=
  0x78 :: 0x01 :: (storedBlocks bs ++ Bytes.bigEndian 4 (Adler32.checksum bs))

/-- The head names the method 8 and a window of at most 32768 bytes, asks for no dictionary, and is
a multiple of 31. -/
def headAccepted (method flags : UInt8) : Bool :=
  let m := method.toNat
  let f := flags.toNat
  (256 * m + f) % 31 == 0 && f / 32 % 2 == 0 && m % 16 == 8 && m / 16 ≤ 7

def decompress : Bytes → Except Fault Bytes
  | method :: flags :: body =>
    if headAccepted method flags then do
      let (content, rest) ← Deflate.inflate body
      if rest.length < 4 then .error .truncated
      else if Bytes.ofLittleEndian (rest.take 4).reverse = Adler32.checksum content then .ok content
      else .error .corrupt
    else .error .corrupt
  | _ => .error .truncated

end Tenancy.Zlib
