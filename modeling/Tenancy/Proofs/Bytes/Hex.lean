import Tenancy.Bytes.Hex
import Tenancy.Proofs.Text.Blank
import Tenancy.Proofs.Text.Utf8

/-!
# Proofs/Bytes/Hex — written bytes read back

    decode (encode bytes)  =  bytes

A byte is written as two digits of one byte each, none of them blank, so that cutting off blanks
before reading changes nothing (`Hex.trim_encodeChars`).
-/

namespace Tenancy.Hex

theorem value?_digit : ∀ n < 16, value? (UInt8.ofNat (digit n).toNat) = some n := by
  decide

theorem toNat_digit_lt : ∀ n < 16, (digit n).toNat < 0x80 := by
  decide

theorem isBlank_digit : ∀ n < 16, Text.isBlank (digit n) = false := by
  decide

theorem encodeChars_cons (b : UInt8) (bs : Bytes) :
    encodeChars (b :: bs) = digit (b.toNat / 16) :: digit (b.toNat % 16) :: encodeChars bs :=
  rfl

/-- What holds of all digits holds of all characters that are written. -/
theorem forall_mem_encodeChars {P : Char → Prop} (h : ∀ n < 16, P (digit n)) (bs : Bytes) :
    ∀ c ∈ encodeChars bs, P c := by
  induction bs with
  | nil => exact List.forall_mem_nil _
  | cons b bs ih =>
    have hb := b.toNat_lt
    exact List.forall_mem_cons.2 ⟨h _ (by omega), List.forall_mem_cons.2 ⟨h _ (by omega), ih⟩⟩

theorem encode_encodeChars (bs : Bytes) :
    Text.encode (encodeChars bs) = (encodeChars bs).map fun c => UInt8.ofNat c.toNat :=
  Text.encode_ascii (forall_mem_encodeChars toNat_digit_lt bs)

theorem decodePairs_encodeChars (i : Nat) (bs : Bytes) :
    decodePairs i ((encodeChars bs).map fun c => UInt8.ofNat c.toNat) = .ok bs := by
  induction bs generalizing i with
  | nil => rfl
  | cons b bs ih =>
    have hb := b.toNat_lt
    have hvalue : 16 * (b.toNat / 16) + b.toNat % 16 = b.toNat := by omega
    rw [encodeChars_cons, List.map_cons, List.map_cons, decodePairs,
      value?_digit (b.toNat / 16) (by omega), value?_digit (b.toNat % 16) (by omega)]
    dsimp only
    rw [ih, hvalue, UInt8.ofNat_toNat]
    rfl

theorem length_encodeChars (bs : Bytes) : (encodeChars bs).length = 2 * bs.length := by
  induction bs with
  | nil => rfl
  | cons b bs ih =>
    rw [encodeChars_cons, List.length_cons, List.length_cons, ih, List.length_cons]
    omega

theorem decode_encodeChars (bs : Bytes) : decode (Text.encode (encodeChars bs)) = .ok bs := by
  have heven : ((encodeChars bs).map fun c => UInt8.ofNat c.toNat).length % 2 = 0 := by
    rw [List.length_map, length_encodeChars]
    omega
  rw [encode_encodeChars, decode, if_pos heven, decodePairs_encodeChars]

theorem trim_encodeChars (bs : Bytes) : Text.trim (encodeChars bs) = encodeChars bs :=
  Text.trim_eq_self (forall_mem_encodeChars isBlank_digit bs)

/-- **Written bytes read back.** -/
theorem decode_encode (bs : Bytes) : decode (utf8 (encode bs)) = .ok bs := by
  rw [encode, utf8_ofList, decode_encodeChars]

end Tenancy.Hex
