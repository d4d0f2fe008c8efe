/-!
# Bytes/Basic — byte strings and the integers written in them

A byte string is a list of bytes. Archives write integers with the low byte first, fingerprints
with the high byte first.
-/

namespace Tenancy

abbrev Bytes := List UInt8

namespace Bytes

/-- The low `width` bytes of `n`, low byte first. -/
def littleEndian : Nat → Nat → Bytes
  | 0, _ => []
  | width + 1, n => UInt8.ofNat n :: littleEndian width (n / 256)

/-- The number written low byte first. -/
def ofLittleEndian : Bytes → Nat
  | [] => 0
  | b :: bs => b.toNat + 256 * ofLittleEndian bs

/-- The low `width` bytes of `n`, high byte first. -/
def bigEndian (width n : Nat) : Bytes :=
  (littleEndian width n).reverse

@[simp] theorem length_littleEndian (width n : Nat) : (littleEndian width n).length = width := by
  induction width generalizing n with
  | zero => rfl
  | succ width ih => simp [littleEndian, ih]

@[simp] theorem length_bigEndian (width n : Nat) : (bigEndian width n).length = width := by
  simp [bigEndian]

theorem ofLittleEndian_littleEndian (width n : Nat) (h : n < Nat.pow 256 width) :
    ofLittleEndian (littleEndian width n) = n := by
  induction width generalizing n with
  | zero => simp at h; simp [littleEndian, ofLittleEndian, h]
  | succ width ih =>
    have hdiv : n / 256 < Nat.pow 256 width := by
      change n < Nat.pow 256 width * 256 at h
      exact Nat.div_lt_of_lt_mul (by omega)
    simp only [littleEndian, ofLittleEndian, ih _ hdiv, UInt8.toNat_ofNat']
    omega

end Bytes

end Tenancy
