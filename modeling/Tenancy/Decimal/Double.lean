/-!
# Decimal/Double — numbers with 53 binary digits

A finite double is a whole number times a power of two. A ratio of whole numbers is rounded to the
nearest double, and to the even one of two that are equally near; what is too large becomes
infinite.
-/

namespace Tenancy.Decimal

/-- The magnitude `significand * 2 ^ exponent`. -/
structure Binary where
  significand : Nat
  exponent : Int
  deriving Repr, DecidableEq

inductive Double where
  | nan
  | infinite (negative : Bool)
  | finite (negative : Bool) (magnitude : Binary)
  deriving Repr, DecidableEq

/-- The exponent of the smallest magnitudes. -/
def leastExponent : Int := -1074

/-- The largest exponent of a magnitude with 53 digits. -/
def greatestExponent : Int := 971

/-- The whole numbers that 64 bits hold, one of them for the sign. -/
def fits64 (n : Int) : Bool :=
  -0x8000000000000000 ≤ n && n < 0x8000000000000000

/-! ## Rounding -/

/-- The whole number nearest to a ratio, the even one of two. -/
def roundDiv (num den : Nat) : Nat :=
  let q := num / den
  let twice := 2 * (num % den)
  if twice < den then q
  else if den < twice then q + 1
  else q + q % 2

/-- A ratio in units of a power of two. -/
def inUnits (num den : Nat) (e : Int) : Nat × Nat :=
  (num * Nat.pow 2 (-e).toNat, den * Nat.pow 2 e.toNat)

/-- The exponent at which a positive ratio has 53 digits, or the least one there is. -/
def exponentOf (num den : Nat) : Int :=
  let e : Int := (num.log2 : Int) - den.log2 - 52
  let (n, d) := inUnits num den e
  max leastExponent (if n / d < 0x10000000000000 then e - 1 else e)

/-- The magnitude nearest to a ratio; `none` when it is too large. -/
def ofRatio (num den : Nat) : Option Binary :=
  if num = 0 then some ⟨0, leastExponent⟩
  else
    let e := exponentOf num den
    let (n, d) := inUnits num den e
    let m := roundDiv n d
    let r : Binary := if m = 0x20000000000000 then ⟨0x10000000000000, e + 1⟩ else ⟨m, e⟩
    if greatestExponent < r.exponent then none else some r

namespace Double

def ofMagnitude (negative : Bool) : Option Binary → Double
  | some b => .finite negative b
  | none => .infinite negative

/-- The double nearest to `digits * 10 ^ exponent`. Exponents far out of range are decided by the
number of digits. -/
def ofDecimal (negative : Bool) (digits : Nat) (exponent : Int) : Double :=
  let size : Int := exponent + (Nat.toDigits 10 digits).length
  if digits = 0 then .finite negative ⟨0, leastExponent⟩
  else if 400 < size then .infinite negative
  else if size < -400 then .finite negative ⟨0, leastExponent⟩
  else
    ofMagnitude negative
      (ofRatio (digits * Nat.pow 10 exponent.toNat) (Nat.pow 10 (-exponent).toNat))

def isZero : Double → Bool
  | .finite _ b => b.significand == 0
  | _ => false

end Double

end Tenancy.Decimal
