import Tenancy.Toml.Moment
import Tenancy.Toml.Value

/-!
# Toml/Number — integers and floats

Digits may have single underscores between them. Integers fit 64 bits, and no float is too large.
-/

namespace Tenancy.Toml

/-! ## Digits -/

/-- Digits with single underscores between them, the underscores dropped. -/
def digitRun (isDigit : Char → Bool) : List Char → List Char × List Char
  | [] => ([], [])
  | '_' :: c :: rest =>
    if isDigit c then consFirst c (digitRun isDigit rest) else ([], '_' :: c :: rest)
  | c :: rest => if isDigit c then consFirst c (digitRun isDigit rest) else ([], c :: rest)

/-- At least one digit. -/
def digits (isDigit : Char → Bool) : Reader (List Char)
  | [] => none
  | c :: rest => if isDigit c then some (digitRun isDigit (c :: rest)) else none

def sign : List Char → Bool × List Char
  | '-' :: rest => (true, rest)
  | '+' :: rest => (false, rest)
  | cs => (false, cs)

/-- Zero, or digits that do not begin with it. -/
def wholeDigits : Reader (List Char)
  | '0' :: rest => some (['0'], rest)
  | cs => digits Char.isDigit cs

/-! ## Integers -/

def inRange (n : Int) : Bool :=
  Decimal.fits64 n

def based (isDigit : Char → Bool) (base : Nat) : Reader Value := fun cs =>
  match digits isDigit cs with
  | some (ds, rest) =>
    let n := ds.foldl (fun n c => n * base + hexDigitValue c) 0
    if inRange n then some (.integer n, rest) else none
  | none => none

def integer : Reader Value
  | '0' :: 'x' :: rest => based isHexDigit 16 rest
  | '0' :: 'o' :: rest => based (fun c => '0' ≤ c && c ≤ '7') 8 rest
  | '0' :: 'b' :: rest => based (fun c => c == '0' || c == '1') 2 rest
  | cs =>
    let (negative, cs) := sign cs
    match wholeDigits cs with
    | some (ds, rest) =>
      let n : Int := if negative then -(decimalValue ds : Int) else decimalValue ds
      if inRange n then some (.integer n, rest) else none
    | none => none

/-! ## Floats -/

/-- The fraction after a whole number; no digits when there is none. -/
def fractionPart : Reader (List Char)
  | '.' :: rest => digits Char.isDigit rest
  | cs => some ([], cs)

/-- The exponent after a number; 0 when there is none. -/
def exponentPart (cs : List Char) : Option (Int × List Char) :=
  match cs with
  | c :: rest =>
    if c == 'e' || c == 'E' then
      let (negative, rest) := sign rest
      (digits Char.isDigit rest).map fun r =>
        (if negative then -(decimalValue r.1 : Int) else decimalValue r.1, r.2)
    else some (0, cs)
  | [] => some (0, [])

def specialFloat (negative : Bool) : Reader Value
  | 'i' :: 'n' :: 'f' :: rest => some (.float (.infinite negative), rest)
  | 'n' :: 'a' :: 'n' :: rest => some (.float .nan, rest)
  | _ => none

def ordinaryFloat (negative : Bool) (cs : List Char) : Option (Value × List Char) := do
  let (whole, afterWhole) ← wholeDigits cs
  let (fraction, afterFraction) ← fractionPart afterWhole
  let (exponent, rest) ← exponentPart afterFraction
  if rest.length = afterWhole.length then none
  else
    let d := Decimal.Double.ofDecimal negative (decimalValue (whole ++ fraction))
      (exponent - fraction.length)
    if d = .infinite false then none else some (.float d, rest)

def float : Reader Value := fun cs =>
  let (negative, cs) := sign cs
  ordinaryFloat negative cs <|> specialFloat negative cs

/-! ## Together -/

/-- A value that begins with a sign or a digit. -/
def numeric : Reader Value := fun cs =>
  ((moment cs).map fun r => (.moment r.1, r.2)) <|> float cs <|> integer cs

end Tenancy.Toml
