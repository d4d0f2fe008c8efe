import Tenancy.Checksum.Crc32
import Tenancy.Text.Utf8

/-!
# Zip/Writer — an archive of stored entries

Each file is a local header with its content; a directory header for each and the end record
follow. A name outside ASCII is marked as UTF-8.
-/

namespace Tenancy.Zip

open Bytes (littleEndian)

def isAscii (name : String) : Bool :=
  name.toList.all fun c => c.toNat < 128

/-- The fields that a local header shares with its directory header. -/
def commonFields (name : String) (content : Bytes) : Bytes :=
  littleEndian 2 20 ++ littleEndian 2 (if isAscii name then 0 else 0x800) ++ littleEndian 2 0 ++
    littleEndian 2 0 ++ littleEndian 2 0x21 ++
    littleEndian 4 (Crc32.checksum content).toNat ++ littleEndian 4 content.length ++
    littleEndian 4 content.length ++ littleEndian 2 (utf8 name).length ++ littleEndian 2 0

def localRecord (name : String) (content : Bytes) : Bytes :=
  littleEndian 4 0x04034B50 ++ commonFields name content ++ utf8 name ++ content

def directoryRecord (offset : Nat) (name : String) (content : Bytes) : Bytes :=
  littleEndian 4 0x02014B50 ++ littleEndian 2 0x031E ++ commonFields name content ++
    littleEndian 2 0 ++ littleEndian 2 0 ++ littleEndian 2 0 ++ littleEndian 4 0x81A40000 ++
    littleEndian 4 offset ++ utf8 name

/-- The directory headers of files whose local headers begin at `offset`. -/
def directoryRecords : Nat → List (String × Bytes) → Bytes
  | _, [] => []
  | offset, (name, content) :: files =>
    directoryRecord offset name content ++
      directoryRecords (offset + (localRecord name content).length) files

def endRecordOf (count size offset : Nat) : Bytes :=
  littleEndian 4 0x06054B50 ++ littleEndian 2 0 ++ littleEndian 2 0 ++ littleEndian 2 count ++
    littleEndian 2 count ++ littleEndian 4 size ++ littleEndian 4 offset ++ littleEndian 2 0

def write (files : List (String × Bytes)) : Bytes :=
  let contents := files.flatMap fun f => localRecord f.1 f.2
  let directory := directoryRecords 0 files
  contents ++ directory ++ endRecordOf files.length directory.length contents.length

end Tenancy.Zip
