import Tenancy.Decimal.Double

/-!
# Decimal/Written — the numbers that words stand for

A whole number is digits with a sign or none. A double may do without the digits before or after
its point, but not without both, and has words for what is not finite.
-/

namespace Tenancy.Decimal

/-- The sign in front, if there is one. -/
def signOf : List Char → Bool × List Char
  | '-' :: cs => (true, cs)
  | '+' :: cs => (false, cs)
  | cs => (false, cs)

def numberOf (digits : List Char) : Nat :=
  digits.foldl (fun n c => n * 10 + (c.toNat - 48)) 0

def withSign (negative : Bool) (n : Nat) : Int :=
  if negative then -(n : Int) else n

/-- A whole number that fits 64 bits. -/
def wholeOfText? (s : String) : Option Int :=
  let (negative, cs) := signOf s.toList
  let n := withSign negative (numberOf cs)
  if !cs.isEmpty && cs.all Char.isDigit && fits64 n then some n else none

/-- The exponent at the end of a number, 0 when there is none. -/
def exponentOfText? : List Char → Option Int
  | [] => some 0
  | c :: cs =>
    let (negative, ds) := signOf cs
    if (c == 'e' || c == 'E') && !ds.isEmpty && ds.all Char.isDigit then
      some (withSign negative (numberOf ds))
    else none

/-- Digits, a point and digits, and an exponent. -/
def magnitudeOfText? (negative : Bool) (cs : List Char) : Option Double :=
  let whole := cs.takeWhile Char.isDigit
  let rest := cs.dropWhile Char.isDigit
  let fraction := if rest.head? == some '.' then (rest.drop 1).takeWhile Char.isDigit else []
  let rest := if rest.head? == some '.' then (rest.drop 1).dropWhile Char.isDigit else rest
  if whole.isEmpty && fraction.isEmpty then none
  else (exponentOfText? rest).map fun e =>
    Double.ofDecimal negative (numberOf (whole ++ fraction)) (e - fraction.length)

/-- The words for infinity and for no number, in letters of any size. -/
def specialOfText? (negative : Bool) (cs : List Char) : Option Double :=
  let w := String.ofList (cs.map Char.toLower)
  if w == "inf" || w == "infinity" then some (.infinite negative)
  else if w == "nan" then some .nan
  else none

/-- **The double that a text stands for.** -/
def Double.ofText? (s : String) : Option Double :=
  let (negative, cs) := signOf s.toList
  magnitudeOfText? negative cs <|> specialOfText? negative cs

end Tenancy.Decimal
