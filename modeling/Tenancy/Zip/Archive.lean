import Tenancy.Checksum.Crc32
import Tenancy.Deflate.Inflate
import Tenancy.Zip.Names

/-!
# Zip/Archive — reading an archive from memory

An archive is found from its end: the end record gives the place and the number of the directory
headers, and each header gives the place of an entry's content. Opening reads the headers only; an
entry's content is read on its own, so that an archive with one broken entry still lists the
others. Sizes, method and check value come from the directory, and data in front of the archive are
allowed.
-/

namespace Tenancy.Zip

/-! ## What can be wrong with an archive -/

inductive Error where
  | tooShort
  | noEndRecord
  | ended
  | severalDisks
  | directoryPlace
  | noRoomForZip64
  | noZip64Record
  | directoryHeader
  | localHeader
  | headerTooLarge
  | aesLength
  | aesVendor
  | aesVersion
  | aesStrength
  | aesMissing
  | passwordRequired
  | unknownMethod
  /-- The content is locked with a key that nobody asks for. -/
  | locked
  deriving Repr, DecidableEq

def Error.message : Error → String
  | .tooShort => "invalid Zip archive: Invalid zip header"
  | .noEndRecord => "invalid Zip archive: Could not find central directory end"
  | .ended => "failed to fill whole buffer"
  | .severalDisks => "unsupported Zip archive: Support for multi-disk files is not implemented"
  | .directoryPlace => "invalid Zip archive: Invalid central directory size or offset"
  | .noRoomForZip64 => "invalid Zip archive: File cannot contain ZIP64 central directory end"
  | .noZip64Record => "invalid Zip archive: Could not find ZIP64 central directory end"
  | .directoryHeader => "invalid Zip archive: Invalid Central Directory header"
  | .localHeader => "invalid Zip archive: Invalid local file header"
  | .headerTooLarge => "invalid Zip archive: Archive header is too large"
  | .aesLength => "unsupported Zip archive: AES extra data field has an unsupported length"
  | .aesVendor => "invalid Zip archive: Invalid AES vendor"
  | .aesVersion => "invalid Zip archive: Invalid AES vendor version"
  | .aesStrength => "invalid Zip archive: Invalid AES encryption strength"
  | .aesMissing => "invalid Zip archive: AES encryption without AES extra data field"
  | .passwordRequired => "unsupported Zip archive: Password required to decrypt file"
  | .unknownMethod => "unsupported Zip archive: Compression method not supported"
  | .locked => "called \x60Result::unwrap()\x60 on an \x60Err\x60 value: InvalidPassword"

/-! ## Fields at a position -/

/-- The number in the `width` bytes from `pos` on, if the file has them. -/
def fieldAt? (file : Array UInt8) (pos width : Nat) : Option Nat :=
  if pos + width ≤ file.size then
    some (Bytes.ofLittleEndian (file.extract pos (pos + width)).toList)
  else none

def fieldAt (file : Array UInt8) (pos width : Nat) : Except Error Nat :=
  match fieldAt? file pos width with
  | some n => .ok n
  | none => .error .ended

def bytesAt (file : Array UInt8) (pos n : Nat) : Except Error Bytes :=
  if pos + n ≤ file.size then .ok (file.extract pos (pos + n)).toList else .error .ended

/-! ## The end record -/

/-- Where the directory is and how many headers it has. -/
structure Directory where
  /-- The number of bytes in front of the archive. -/
  lead : Nat
  start : Nat
  count : Nat

structure EndRecord where
  pos : Nat
  disk : Nat
  directoryDisk : Nat
  countHere : Nat
  count : Nat
  size : Nat
  offset : Nat
  commentLength : Nat

/-- Some field is all ones, so that a larger record must hold its value. -/
def EndRecord.isTooSmall (e : EndRecord) : Bool :=
  e.disk == 0xFFFF || e.directoryDisk == 0xFFFF || e.countHere == 0xFFFF || e.count == 0xFFFF ||
    e.size == 0xFFFFFFFF || e.offset == 0xFFFFFFFF

/-- Looks for the end record's signature from `pos` backwards, at `tries` places. -/
def findEnd (file : Array UInt8) : Nat → Nat → Option Nat
  | 0, _ => none
  | tries + 1, pos =>
    if fieldAt? file pos 4 == some 0x06054B50 then some pos
    else if pos == 0 then none
    else findEnd file tries (pos - 1)

def readEnd (file : Array UInt8) (pos : Nat) : Except Error EndRecord := do
  let disk ← fieldAt file (pos + 4) 2
  let directoryDisk ← fieldAt file (pos + 6) 2
  let countHere ← fieldAt file (pos + 8) 2
  let count ← fieldAt file (pos + 10) 2
  let size ← fieldAt file (pos + 12) 4
  let offset ← fieldAt file (pos + 16) 4
  let commentLength ← fieldAt file (pos + 20) 2
  let _ ← bytesAt file (pos + 22) commentLength
  .ok ⟨pos, disk, directoryDisk, countHere, count, size, offset, commentLength⟩

/-- The end record nearest to the end, a comment of at most 65535 bytes after it. -/
def endRecord (file : Array UInt8) : Except Error EndRecord :=
  if file.size < 22 then .error .tooShort
  else
    match findEnd file 65536 (file.size - 22) with
    | some pos => readEnd file pos
    | none => .error .noEndRecord

/-! ## The large end record -/

/-- Looks for the large end record's signature from `pos` up to `last`. -/
def findZip64 (file : Array UInt8) (last : Nat) : Nat → Nat → Except Error Nat
  | 0, _ => .error .noZip64Record
  | tries + 1, pos =>
    if last < pos then .error .noZip64Record
    else
      match fieldAt? file pos 4 with
      | none => .error .ended
      | some n => if n == 0x06064B50 then .ok pos else findZip64 file last tries (pos + 1)

/-- The directory as the large end record gives it; `locator` is the place of its locator. -/
def zip64Directory (file : Array UInt8) (e : EndRecord) (locator : Nat) :
    Except Error Directory := do
  let disk ← fieldAt file (locator + 4) 4
  let nominal ← fieldAt file (locator + 8) 8
  let _ ← fieldAt file (locator + 16) 4
  if !e.isTooSmall && e.disk != disk then .error .severalDisks
  if e.pos < 60 then .error .noRoomForZip64
  let pos ← findZip64 file (e.pos - 60) (file.size + 1) nominal
  let ownDisk ← fieldAt file (pos + 16) 4
  let directoryDisk ← fieldAt file (pos + 20) 4
  let count ← fieldAt file (pos + 32) 8
  let _ ← fieldAt file (pos + 40) 8
  let offset ← fieldAt file (pos + 48) 8
  if ownDisk != directoryDisk then .error .severalDisks
  if 0x10000000000000000 ≤ offset + (pos - nominal) then .error .directoryPlace
  .ok ⟨pos - nominal, offset + (pos - nominal), count⟩

def plainDirectory (e : EndRecord) : Except Error Directory :=
  if e.pos < e.size + e.offset then .error .directoryPlace
  else .ok ⟨e.pos - e.size - e.offset, e.pos - e.size, e.countHere⟩

def directory (file : Array UInt8) : Except Error Directory := do
  let e ← endRecord file
  if !e.isTooSmall && e.disk != e.directoryDisk then .error .severalDisks
  if file.size < 42 + e.commentLength then plainDirectory e
  else
    let locator := file.size - (42 + e.commentLength)
    if (← fieldAt file locator 4) == 0x07064B50 then zip64Directory file e locator
    else plainDirectory e

/-! ## Directory headers -/

structure Header where
  name : String
  isEncrypted : Bool
  method : Nat
  crc : Nat
  size : Nat
  compressedSize : Nat
  offset : Nat
  hasAes : Bool
  deriving Repr

/-- A name that ends in a separator of either kind is a directory. -/
def isDirectoryName (name : String) : Bool :=
  match name.toList.getLast? with
  | some c => c == '/' || c == '\\'
  | none => false

/-- The marker of a value too large for four bytes. -/
def large : Nat := 0xFFFFFFFF

/-- The three values that the large-size field may hold, in this order, each only where the header
has the marker. `none` in the second place tells that the field ended early. -/
def largeSizes (extra : Array UInt8) (pos : Nat) (h : Header) : Header × Option Nat :=
  let takeSize (h : Header) (pos : Nat) : Header × Option Nat :=
    if h.size == large then
      match fieldAt? extra pos 8 with
      | some n => ({ h with size := n }, some (pos + 8))
      | none => (h, none)
    else (h, some pos)
  let takeCompressed (h : Header) (pos : Nat) : Header × Option Nat :=
    if h.compressedSize == large then
      match fieldAt? extra pos 8 with
      | some n => ({ h with compressedSize := n }, some (pos + 8))
      | none => (h, none)
    else (h, some pos)
  let takeOffset (h : Header) (pos : Nat) : Header × Option Nat :=
    if h.offset == large then
      match fieldAt? extra pos 8 with
      | some n => ({ h with offset := n }, some (pos + 8))
      | none => (h, none)
    else (h, some pos)
  match takeSize h pos with
  | (h, none) => (h, none)
  | (h, some pos) =>
    match takeCompressed h pos with
    | (h, none) => (h, none)
    | (h, some pos) => takeOffset h pos

/-- The encryption field: version, vendor, strength and the method of the content. -/
def aesField (extra : Array UInt8) (pos : Nat) (h : Header) : Except Error (Option Header) :=
  match fieldAt? extra pos 2, fieldAt? extra (pos + 2) 2, fieldAt? extra (pos + 4) 1,
      fieldAt? extra (pos + 5) 2 with
  | some version, some vendor, some strength, some method =>
    if vendor != 0x4541 then .error .aesVendor
    else if version != 1 && version != 2 then .error .aesVersion
    else if strength != 1 && strength != 2 && strength != 3 then .error .aesStrength
    else .ok (some { h with hasAes := true, method })
  | _, _, _, _ => .ok none

/-- Reads the extra fields from `pos` on; one that ends early is given up with what was read. An
encryption field is skipped by its length after it has been read. -/
def extraFields (extra : Array UInt8) : Nat → Nat → Header → Except Error Header
  | 0, _, h => .ok h
  | fuel + 1, pos, h =>
    if extra.size ≤ pos then .ok h
    else
      match fieldAt? extra pos 2, fieldAt? extra (pos + 2) 2 with
      | some kind, some len =>
        let body := pos + 4
        if kind == 1 then
          match largeSizes extra body h with
          | (h, none) => .ok h
          | (h, some after) => extraFields extra fuel (max after (body + len)) h
        else if kind == 0x9901 then
          if len != 7 then .error .aesLength
          else
            match aesField extra body h with
            | .error e => .error e
            | .ok none => .ok h
            | .ok (some h) => extraFields extra fuel (body + 14) h
        else extraFields extra fuel (body + len) h
      | _, _ => .ok h

/-- The directory header at `pos` and the place after it. -/
def headerAt (file : Array UInt8) (lead pos : Nat) : Except Error (Header × Nat) := do
  if (← fieldAt file pos 4) != 0x02014B50 then .error .directoryHeader
  let flags ← fieldAt file (pos + 8) 2
  let method ← fieldAt file (pos + 10) 2
  let crc ← fieldAt file (pos + 16) 4
  let compressedSize ← fieldAt file (pos + 20) 4
  let size ← fieldAt file (pos + 24) 4
  let nameLength ← fieldAt file (pos + 28) 2
  let extraLength ← fieldAt file (pos + 30) 2
  let commentLength ← fieldAt file (pos + 32) 2
  let offset ← fieldAt file (pos + 42) 4
  let name ← bytesAt file (pos + 46) nameLength
  let extra ← bytesAt file (pos + 46 + nameLength) extraLength
  let _ ← bytesAt file (pos + 46 + nameLength + extraLength) commentLength
  let h : Header :=
    { name := decodeName (flags.testBit 11) name, isEncrypted := flags.testBit 0, method, crc, size,
      compressedSize, offset, hasAes := false }
  let h ← extraFields extra.toArray (extraLength + 1) 0 h
  if h.method == 99 && !h.hasAes then .error .aesMissing
  if 0x10000000000000000 ≤ h.offset + lead then .error .headerTooLarge
  .ok ({ h with offset := h.offset + lead },
    pos + 46 + nameLength + extraLength + commentLength)

/-- `count` directory headers from `pos` on. Every header takes room in the file, so `fuel` above
its size is never used up. -/
def headersFrom (file : Array UInt8) (lead : Nat) : Nat → Nat → Nat → Except Error (List Header)
  | 0, _, _ => .error .ended
  | _ + 1, 0, _ => .ok []
  | fuel + 1, count + 1, pos => do
    let (h, pos) ← headerAt file lead pos
    let rest ← headersFrom file lead fuel count pos
    .ok (h :: rest)

def headers (file : Array UInt8) : Except Error (List Header) := do
  let d ← directory file
  headersFrom file d.lead (file.size + 1) d.count d.start

/-! ## Content -/

/-- Why the content of an entry cannot be read. -/
inductive ContentError where
  | stream (fault : Deflate.Fault)
  | checksum
  deriving Repr, DecidableEq

def ContentError.message : ContentError → String
  | .stream f => f.message
  | .checksum => "Invalid checksum"

/-- The compressed bytes of an entry, as many as the file has. They begin after the name and the
extra field of the local header. An entry that is marked as encrypted asks for a password; one that
has an encryption field alone is found locked. -/
def contentBytes (file : Array UInt8) (h : Header) : Except Error Bytes := do
  if h.isEncrypted then .error .passwordRequired
  if (← fieldAt file h.offset 4) != 0x04034B50 then .error .localHeader
  let nameLength ← fieldAt file (h.offset + 26) 2
  let extraLength ← fieldAt file (h.offset + 28) 2
  let start := h.offset + 30 + nameLength + extraLength
  if h.method != 0 && h.method != 8 then .error .unknownMethod
  if h.hasAes then .error .locked
  .ok (file.extract start (start + h.compressedSize)).toList

def unpack (h : Header) (raw : Bytes) : Except ContentError Bytes := do
  let content ← match h.method with
    | 0 => .ok raw
    | _ =>
      match Deflate.inflate raw with
      | .ok (content, _) => .ok content
      | .error f => .error (.stream f)
  if (Crc32.checksum content).toNat == h.crc then .ok content else .error .checksum

/-! ## Entries -/

structure Entry where
  name : String
  isDirectory : Bool
  content : Except ContentError Bytes

/-- What an archive gives: why it cannot be opened, or its entries in directory order, each of them
readable as far as its own header goes. -/
abbrev Listing := Except Error (List (Except Error Entry))

def entry (file : Array UInt8) (h : Header) : Except Error Entry := do
  let raw ← contentBytes file h
  .ok ⟨h.name, isDirectoryName h.name, unpack h raw⟩

def read (bs : Bytes) : Listing := do
  let file := bs.toArray
  let hs ← headers file
  .ok (hs.map (entry file))

end Tenancy.Zip
