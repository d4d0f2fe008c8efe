import Tenancy.Decimal.Double

/-!
# Decimal/Shortest — the fewest digits that read back

A double is written with the fewest decimal digits that are rounded to it again; of several such
numbers the nearest is taken, and the larger of two that are equally near. The digits are laid out
in full, without an exponent.
-/

namespace Tenancy.Decimal

/-- The number `digits * 10 ^ exponent`. -/
structure Scaled where
  digits : Nat
  exponent : Int
  deriving Repr, DecidableEq

/-! ## What reads back -/

/-- Compares `a * 10 ^ i` with `n * 2 ^ j`. -/
def compareScaled (a : Nat) (i : Int) (n : Nat) (j : Int) : Ordering :=
  compare (a * Nat.pow 10 i.toNat * Nat.pow 2 (-j).toNat)
    (n * Nat.pow 2 j.toNat * Nat.pow 10 (-i).toNat)

/-- The neighbour below is only half as far away as the one above. -/
def Binary.narrowBelow (b : Binary) : Bool :=
  b.significand == 0x10000000000000 && leastExponent < b.exponent

/-- A decimal lies among the numbers that are rounded to a magnitude. -/
def Binary.readsBack (b : Binary) (d : Scaled) : Bool :=
  let low := if b.narrowBelow then 4 * b.significand - 1 else 4 * b.significand - 2
  let high := 4 * b.significand + 2
  let closed := b.significand % 2 == 0
  let toLow := compareScaled d.digits d.exponent low (b.exponent - 2)
  let toHigh := compareScaled d.digits d.exponent high (b.exponent - 2)
  (toLow == .gt || (closed && toLow == .eq)) && (toHigh == .lt || (closed && toHigh == .eq))

/-! ## The digits -/

/-- The multiple of `10 ^ i` at or below a magnitude, in units of it, and whether the next one is at
least as near. -/
def Binary.floorAt (b : Binary) (i : Int) : Nat × Bool :=
  let num := b.significand * Nat.pow 2 b.exponent.toNat * Nat.pow 10 (-i).toNat
  let den := Nat.pow 2 (-b.exponent).toNat * Nat.pow 10 i.toNat
  (num / den, den ≤ 2 * (num % den))

/-- The best of the two neighbours on the grid of `10 ^ i` that read back. -/
def Binary.onGrid? (b : Binary) (i : Int) : Option Scaled :=
  let (below, upNearer) := b.floorAt i
  let down : Scaled := ⟨below, i⟩
  let up : Scaled := ⟨below + 1, i⟩
  match b.readsBack down && below != 0, b.readsBack up with
  | true, true => some (if upNearer then up else down)
  | true, false => some down
  | false, true => some up
  | false, false => none

/-- The power of ten of the leading digit. -/
def Binary.magnitudeOf (b : Binary) : Int :=
  if 0 ≤ b.exponent then
    (Nat.toDigits 10 (b.significand * Nat.pow 2 b.exponent.toNat)).length - 1
  else
    let scale := (-b.exponent).toNat
    let scaled := b.significand * Nat.pow 10 scale / Nat.pow 2 scale
    (Nat.toDigits 10 scaled).length - 1 - (scale : Int)

/-- Tries ever finer grids. -/
def Binary.shortestFrom (b : Binary) : Nat → Int → Scaled
  | 0, i => ⟨(b.floorAt i).1, i⟩
  | tries + 1, i => (b.onGrid? i).getD (b.shortestFrom tries (i - 1))

/-- Drops zeros at the end. -/
def Scaled.strip : Nat → Scaled → Scaled
  | 0, d => d
  | fuel + 1, d =>
    if d.digits ≠ 0 ∧ d.digits % 10 = 0 then strip fuel ⟨d.digits / 10, d.exponent + 1⟩ else d

/-- **The fewest digits that read back**, of a magnitude that is not zero. -/
def Binary.shortest (b : Binary) : Scaled :=
  (b.shortestFrom 20 (b.magnitudeOf + 1)).strip 20

/-! ## Text -/

def digitChars (n : Nat) : List Char :=
  Nat.toDigits 10 n

/-- The digits in full. -/
def Scaled.positional (d : Scaled) : List Char :=
  let ds := digitChars d.digits
  if 0 ≤ d.exponent then ds ++ List.replicate d.exponent.toNat '0'
  else
    let places := (-d.exponent).toNat
    let ds := List.replicate (places + 1 - ds.length) '0' ++ ds
    ds.take (ds.length - places) ++ '.' :: ds.drop (ds.length - places)

/-- The first digit, and the others behind a point. -/
def pointed : List Char → List Char
  | d :: ds@(_ :: _) => d :: '.' :: ds
  | ds => ds

/-- The digits in full where that is short, and with an exponent elsewhere. -/
def Scaled.compact (d : Scaled) : List Char :=
  let ds := digitChars d.digits
  let top : Int := ds.length + d.exponent
  if 0 ≤ d.exponent ∧ top ≤ 16 then d.positional ++ ['.', '0']
  else if -5 < top ∧ top ≤ 16 then d.positional
  else pointed ds ++ 'e' :: (toString (top - 1)).toList

/-- The text of a double: its shortest digits in full. -/
def Double.text : Double → String
  | .nan => "NaN"
  | .infinite negative => if negative then "-inf" else "inf"
  | .finite negative b =>
    let body := if b.significand = 0 then ['0'] else b.shortest.positional
    String.ofList (if negative then '-' :: body else body)

/-- The text of a double with an exponent where that is shorter. -/
def Double.shortText : Double → String
  | .finite negative b =>
    let body := if b.significand = 0 then ['0', '.', '0'] else b.shortest.compact
    String.ofList (if negative then '-' :: body else body)
  | d => d.text

end Tenancy.Decimal
