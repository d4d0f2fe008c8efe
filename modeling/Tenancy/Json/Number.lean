import Tenancy.Decimal.Shortest
import Tenancy.Json.Parser

/-!
# Json/Number — the value of a written number

A number is whole if it is written without a fraction and an exponent and fits 64 bits; any other
is a double. A double is read in two steps: of the digits as many as fit 64 bits are rounded to a
double, which is then multiplied or divided by a power of ten, rounding again. Digits of the
fraction are taken even after digits before the point had to be left out.
-/

namespace Tenancy.Json

open Decimal

inductive NumberValue where
  | whole (n : Int)
  | double (d : Double)
  deriving Repr, DecidableEq

/-! ## The parts of a number -/

structure NumberParts where
  negative : Bool
  whole : List Char
  fraction : List Char
  /-- The exponent, or 0. -/
  exponent : Int
  /-- Nothing but digits is written. -/
  isPlain : Bool

def digitsValue (cs : List Char) : Nat :=
  cs.foldl (fun n c => n * 10 + (c.toNat - 48)) 0

def exponentOf (cs : List Char) : Int :=
  match cs with
  | '-' :: ds => -(digitsValue ds : Int)
  | '+' :: ds => digitsValue ds
  | ds => digitsValue ds

/-- The parts of a number that is written as the grammar wants it. -/
def numberParts (written : String) : NumberParts :=
  let cs := written.toList
  let negative := cs.head? == some '-'
  let cs := if negative then cs.drop 1 else cs
  let whole := cs.takeWhile Char.isDigit
  let cs := cs.drop whole.length
  let fraction := if cs.head? == some '.' then (cs.drop 1).takeWhile Char.isDigit else []
  let rest := if cs.head? == some '.' then cs.drop (1 + fraction.length) else cs
  ⟨negative, whole, fraction, exponentOf (rest.drop 1), cs.isEmpty⟩

/-! ## Doubles -/

/-- Takes on digits as long as the number fits 64 bits; the number, and how many were taken. -/
def takeDigits (n : Nat) : List Char → Nat × Nat
  | [] => (n, 0)
  | c :: cs =>
    let next := n * 10 + (c.toNat - 48)
    if next < 0x10000000000000000 then
      let (m, taken) := takeDigits next cs
      (m, taken + 1)
    else (n, 0)

/-- The magnitude as a ratio of whole numbers. -/
def ratioOf (b : Binary) : Nat × Nat :=
  (b.significand * Nat.pow 2 b.exponent.toNat, Nat.pow 2 (-b.exponent).toNat)

/-- The product with a power of ten that is a double itself. -/
def timesTen (b : Binary) (power : Nat) : Option Binary := do
  let p ← ofRatio (Nat.pow 10 power) 1
  ofRatio ((ratioOf b).1 * (ratioOf p).1) ((ratioOf b).2 * (ratioOf p).2)

/-- The quotient by a power of ten that is a double itself. -/
def overTen (b : Binary) (power : Nat) : Option Binary := do
  let p ← ofRatio (Nat.pow 10 power) 1
  ofRatio ((ratioOf b).1 * (ratioOf p).2) ((ratioOf b).2 * (ratioOf p).1)

/-- Scales by a power of ten; `none` when the result is too large. -/
def scaled (b : Binary) (exponent : Int) : Option Binary :=
  if b.significand = 0 then some b
  else if 308 < exponent then none
  else if 0 ≤ exponent then timesTen b exponent.toNat
  else if -308 ≤ exponent then overTen b (-exponent).toNat
  else if -616 ≤ exponent then do
    let b ← overTen b 308
    overTen b (-exponent - 308).toNat
  else do
    let b ← overTen b 308
    let b ← overTen b 308
    overTen b 308

/-- The double of a number; `none` when it is too large. -/
def doubleOf (p : NumberParts) : Option Double := do
  let (n, taken) := takeDigits 0 p.whole
  let left := p.whole.length - taken
  let (n, places) := takeDigits n p.fraction
  let b ← ofRatio n 1
  let b ← scaled b (left - places + p.exponent)
  some (.finite p.negative b)

/-- The value of a number; `none` when it is too large. -/
def numberValue? (written : String) : Option NumberValue :=
  let p := numberParts written
  let n := digitsValue p.whole
  if p.isPlain && !p.negative && n < 0x10000000000000000 then some (.whole n)
  else if p.isPlain && p.negative && 0 < n && n ≤ 0x8000000000000000 then some (.whole (-n))
  else (doubleOf p).map .double

end Tenancy.Json
