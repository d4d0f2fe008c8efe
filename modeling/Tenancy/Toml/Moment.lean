import Tenancy.Toml.Text

/-!
# Toml/Moment — dates and times

A moment is checked against the calendar and kept in the standard form. It stands in a document as
it is, or it is told by a text, which may name the hour 24 and any distance from universal time of
at most a day.
-/

namespace Tenancy.Toml

/-! ## Parts -/

def decimalValue (cs : List Char) : Nat :=
  cs.foldl (fun n c => n * 10 + (c.toNat - 48)) 0

/-- A number of exactly so many digits in a range. -/
def fixedNumber (width low high : Nat) : Reader Nat := fun cs =>
  let ds := cs.take width
  let n := decimalValue ds
  if ds.length = width && ds.all Char.isDigit && low ≤ n && n ≤ high then some (n, cs.drop width)
  else none

def expect (c : Char) : List Char → Option (List Char)
  | [] => none
  | d :: rest => if c == d then some rest else none

def isLeapYear (year : Nat) : Bool :=
  year % 4 == 0 && (year % 100 != 0 || year % 400 == 0)

def daysIn (year month : Nat) : Nat :=
  if month = 2 then if isLeapYear year then 29 else 28
  else if [4, 6, 9, 11].contains month then 30
  else 31

/-- A number with zeros in front up to a width. -/
def padded (width n : Nat) : String :=
  let ds := Nat.toDigits 10 n
  String.ofList (List.replicate (width - ds.length) '0' ++ ds)

def date : Reader String := fun cs => do
  let (year, cs) ← fixedNumber 4 0 9999 cs
  let cs ← expect '-' cs
  let (month, cs) ← fixedNumber 2 1 12 cs
  let cs ← expect '-' cs
  let (day, cs) ← fixedNumber 2 1 31 cs
  if day ≤ daysIn year month then
    some (padded 4 year ++ "-" ++ padded 2 month ++ "-" ++ padded 2 day, cs)
  else none

/-- Nine places of a fraction of a second, without zeros at the end. -/
def secondFraction (ds : List Char) : List Char :=
  ((ds.take 9).reverse.dropWhile (· == '0')).reverse

/-- A time of day, its hour at most `lastHour`. -/
def clock (lastHour : Nat) : Reader String := fun cs => do
  let (hour, cs) ← fixedNumber 2 0 lastHour cs
  let cs ← expect ':' cs
  let (minute, cs) ← fixedNumber 2 0 59 cs
  let cs ← expect ':' cs
  let (second, cs) ← fixedNumber 2 0 60 cs
  let written := padded 2 hour ++ ":" ++ padded 2 minute ++ ":" ++ padded 2 second
  match cs with
  | '.' :: rest =>
    match rest.takeWhile Char.isDigit with
    | [] => some (written, cs)
    | ds =>
      let places := secondFraction ds
      some (if places.isEmpty then written else written ++ "." ++ String.ofList places,
        rest.dropWhile Char.isDigit)
  | cs => some (written, cs)

/-- A distance from universal time in minutes; a distance of nothing is positive. -/
def writtenOffset (negative : Bool) (minutes : Nat) : String :=
  (if negative && 0 < minutes then "-" else "+") ++ padded 2 (minutes / 60) ++ ":" ++
    padded 2 (minutes % 60)

/-! ## In a document -/

/-- The distance from universal time. -/
def offset : Reader String
  | [] => none
  | c :: rest =>
    if c == 'Z' || c == 'z' then some ("Z", rest)
    else if c == '+' || c == '-' then do
      let (hour, cs) ← fixedNumber 2 0 23 rest
      let cs ← expect ':' cs
      let (minute, cs) ← fixedNumber 2 0 59 cs
      some (writtenOffset (c == '-') (60 * hour + minute), cs)
    else none

/-- The time that may follow a date. -/
def dayTime : Reader String
  | [] => none
  | c :: rest =>
    if c == 'T' || c == 't' || c == ' ' then
      match clock 23 rest with
      | some (time, cs) =>
        match offset cs with
        | some (o, cs) => some (time ++ o, cs)
        | none => some (time, cs)
      | none => none
    else none

/-- A date, a time or both. -/
def moment : Reader String := fun cs =>
  match date cs with
  | some (day, cs) =>
    match dayTime cs with
    | some (time, rest) => some (day ++ "T" ++ time, rest)
    | none => some (day, cs)
  | none => clock 23 cs

/-! ## Told by a text -/

/-- The distance from universal time at the end of a text, if there is one. -/
def lastOffset? : List Char → Option String
  | [] => some ""
  | c :: rest =>
    if c == 'Z' || c == 'z' then if rest.isEmpty then some "Z" else none
    else if c == '+' || c == '-' then do
      let (hours, cs) ← fixedNumber 2 0 99 rest
      let cs ← expect ':' cs
      let (minutes, cs) ← fixedNumber 2 0 99 cs
      let total := 60 * hours + minutes
      if cs.isEmpty && total ≤ 1440 then some (writtenOffset (c == '-') total) else none
    else none

/-- What follows the date of a text. -/
def lastDayTime? : List Char → Option String
  | [] => some ""
  | c :: rest =>
    if c == 'T' || c == 't' || c == ' ' then do
      let (time, cs) ← clock 24 rest
      let o ← lastOffset? cs
      some ("T" ++ time ++ o)
    else none

/-- **The moment that a text tells.** -/
def momentOfText? (s : String) : Option String :=
  let cs := s.toList
  if cs[2]? == some ':' then
    match clock 24 cs with
    | some (time, []) => some time
    | _ => none
  else do
    let (day, cs) ← date cs
    let time ← lastDayTime? cs
    some (day ++ time)

end Tenancy.Toml
