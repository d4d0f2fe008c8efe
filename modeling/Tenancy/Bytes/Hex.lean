import Tenancy.Bytes.Basic
import Tenancy.Text.Quoted

/-!
# Bytes/Hex — two digits a byte

Writing uses lower-case digits. Reading takes digits of either case; an odd number of them is
refused before any digit is looked at, and the first character that is no digit is reported with
its position, counted in bytes.
-/

namespace Tenancy.Hex

/-- The lower-case digit of a number below sixteen. -/
def digit (n : Nat) : Char :=
  if n < 10 then Char.ofNat (48 + n) else Char.ofNat (87 + n)

/-- The value of a digit of either case. -/
def value? (b : UInt8) : Option Nat :=
  if 48 ≤ b && b ≤ 57 then some (b.toNat - 48)
  else if 97 ≤ b && b ≤ 102 then some (b.toNat - 87)
  else if 65 ≤ b && b ≤ 70 then some (b.toNat - 55)
  else none

/-- The digits of a byte string. -/
def encodeChars (bs : Bytes) : List Char :=
  bs.flatMap fun b => [digit (b.toNat / 16), digit (b.toNat % 16)]

def encode (bs : Bytes) : String :=
  String.ofList (encodeChars bs)

inductive Error where
  | oddLength
  | badDigit (char : Char) (index : Nat)
  deriving Repr, DecidableEq

/-- A byte that is no digit is named by the character whose code it is. -/
def Error.message : Error → String
  | .oddLength => "Odd number of digits"
  | .badDigit c i => "Invalid character " ++ Text.quotedChar c ++ s!" at position {i}"

/-- Reads digit pairs from position `i` on. -/
def decodePairs : Nat → Bytes → Except Error Bytes
  | i, h :: l :: rest =>
    match value? h, value? l with
    | some a, some b => (decodePairs (i + 2) rest).map (UInt8.ofNat (16 * a + b) :: ·)
    | none, _ => .error (.badDigit (Char.ofNat h.toNat) i)
    | _, none => .error (.badDigit (Char.ofNat l.toNat) (i + 1))
  | _, [_] => .error .oddLength
  | _, [] => .ok []

def decode (bs : Bytes) : Except Error Bytes :=
  if bs.length % 2 = 0 then decodePairs 0 bs else .error .oddLength

end Tenancy.Hex
