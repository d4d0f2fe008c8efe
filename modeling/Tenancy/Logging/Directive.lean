import Tenancy.Decimal.Written
import Tenancy.Logging.Event
import Tenancy.Logging.Pattern
import Tenancy.Text.Quoted

/-!
# Logging/Directive — what is to be reported from where

A directive is `target[span{field}]=level`, most of which may be left out; a word alone is a level
if it can be one, and else a target. The marks are looked for in the text without the blanks around
it, but places are counted, in bytes, in the text as it is written; a place inside a character
breaks off whatever is under way.
-/

namespace Tenancy

/-- Events at a level and above pass; with no level none do. -/
abbrev LevelBound := Option LogLevel

namespace LevelBound

/-- Levels by number, from nothing to everything. -/
def numbered : List LevelBound :=
  [none, some .error, some .warn, some .info, some .debug, some .trace]

def ofWord? (w : String) : Option LevelBound :=
  if w == "off" then some none else (LogLevel.ofWord? w).map some

/-- A number, a plus in front or not. -/
def numberOf? (cs : List Char) : Option Nat :=
  let ds := if cs.head? == some '+' then cs.drop 1 else cs
  if !ds.isEmpty && ds.all Char.isDigit then
    some (ds.foldl (fun n c => n * 10 + (c.toNat - 48)) 0)
  else none

/-- Reads a level: its number, or its name in letters of any size. -/
def ofText? (s : String) : Option LevelBound :=
  match (numberOf? s.toList).bind (numbered[·]?) with
  | some b => some b
  | none =>
    if s.isEmpty then some (some .error) else ofWord? (String.ofList (s.toList.map Char.toLower))

/-- The event is severe enough. -/
def passes (b : LevelBound) (l : LogLevel) : Bool :=
  b.any fun least => least.severity ≤ l.severity

end LevelBound

/-- A place inside a character, which takes the bytes from `first` up to `past`. -/
structure TornChar where
  written : String
  place : Nat
  char : Char
  first : Nat
  past : Nat
  deriving Repr, DecidableEq

def TornChar.message (t : TornChar) : String :=
  s!"byte index {t.place} is not a char boundary; it is inside " ++ Text.quotedChar t.char ++
    s!" (bytes {t.first}..{t.past}) of \x60" ++ t.written ++ "\x60"

inductive DirectiveFault where
  | malformed
  | level
  | field (e : Pattern.Fault)
  | torn (t : TornChar)
  deriving Repr, DecidableEq

namespace DirectiveFault

def message : DirectiveFault → String
  | .malformed => "invalid filter directive"
  | .level =>
    "error parsing level filter: expected one of \"off\", \"error\", \"warn\", \"info\", " ++
      "\"debug\", \"trace\", or a number 0-5"
  | .field e => "invalid field filter: " ++ e.message
  | .torn t => t.message

/-- What the fault says if nobody answers for it. -/
def uncaught? : DirectiveFault → Option String
  | .torn t => some t.message
  | _ => none

end DirectiveFault

structure Directive where
  level : LevelBound := some .trace
  target : Option String := none
  span : Option String := none
  /-- The names of fields, each with whether a value is asked for. -/
  fields : List (String × Bool) := []
  deriving Repr, DecidableEq

namespace Directive

/-! ## Reading -/

/-- What is being read; a part that is under way remembers where it began. -/
inductive Stage where
  | start
  | word (begun : Nat)
  | span (begun : Nat)
  | field (begun : Nat)
  | afterFields
  | afterSpan
  | level (begun : Nat)
  | complete
  deriving Repr, DecidableEq

/-- The characters before and after a place, `here` being the place of the first of them. -/
def splitAt (written : String) (place : Nat) :
    Nat → List Char → Except DirectiveFault (List Char × List Char)
  | _, [] => .ok ([], [])
  | here, c :: cs =>
    let past := here + c.utf8Size
    if place ≤ here then .ok ([], c :: cs)
    else if place < past then .error (.torn ⟨written, place, c, here, past⟩)
    else (splitAt written place past cs).map fun r => (c :: r.1, r.2)

/-- The text from a place on. -/
def cutFrom (written : String) (begun : Nat) : Except DirectiveFault String :=
  (splitAt written begun 0 written.toList).map fun r => String.ofList r.2

/-- The text between two places. -/
def cut (written : String) (begun ended : Nat) : Except DirectiveFault String := do
  let (_, rest) ← splitAt written begun 0 written.toList
  let (part, _) ← splitAt written ended begun rest
  .ok (String.ofList part)

/-- A word alone. -/
def withWord (d : Directive) (w : String) : Directive :=
  match LevelBound.ofText? w with
  | some level => { d with level }
  | none => { d with target := some w }

/-- A level that may be left out. -/
def withLevel (d : Directive) (w : String) : Except DirectiveFault Directive :=
  if w.isEmpty then .ok d
  else
    match LevelBound.ofText? w with
    | some level => .ok { d with level }
    | none => .error .level

/-- The value of a field is a number or a pattern. -/
def checkValue (w : String) : Except DirectiveFault Unit :=
  if (Decimal.Double.ofText? w).isSome then .ok () else (Pattern.check w).mapError .field

/-- A field with or without a value, which ends at a second equals sign. -/
def withField (d : Directive) (w : String) : Except DirectiveFault Directive :=
  match w.toList.splitOn '=' with
  | [] | [[]] => .error .malformed
  | [name] => .ok { d with fields := d.fields ++ [(String.ofList name, false)] }
  | name :: value :: _ => do
    checkValue (String.ofList value)
    .ok { d with fields := d.fields ++ [(String.ofList name, true)] }

/-- Takes in the character at a place. -/
def step (written : String) (d : Directive) (i : Nat) (c : Char) :
    Stage → Except DirectiveFault (Directive × Stage)
  | .start =>
    if c == '[' then .ok (d, .span (i + 1))
    else if Text.isAlphanumeric c || ['-', ':', '_'].contains c then .ok (d, .word i)
    else .error .malformed
  | .word b =>
    if c == '=' then
      (cut written b i).map fun w => ({ d with target := some w }, .level (i + 1))
    else if c == '[' then
      (cut written b i).map fun w => ({ d with target := some w }, .span (i + 1))
    else if c == ',' then (cutFrom written b).map fun w => (d.withWord w, .complete)
    else .ok (d, .word b)
  | .span b =>
    if c == ']' then (cut written b i).map fun w => ({ d with span := some w }, .afterSpan)
    else if c == '{' then
      (cut written b i).map fun w =>
        ({ d with span := if w.isEmpty then none else some w }, .field (i + 1))
    else .ok (d, .span b)
  | .field b =>
    if c == '}' then ((cut written b i).bind d.withField).map fun d => (d, .afterFields)
    else if c == ',' then ((cut written b i).bind d.withField).map fun d => (d, .field (i + 1))
    else .ok (d, .field b)
  | .afterFields => if c == ']' then .ok (d, .afterSpan) else .error .malformed
  | .afterSpan => if c == '=' then .ok (d, .level (i + 1)) else .error .malformed
  | .level b =>
    if c == ',' then ((cut written b i).bind d.withLevel).map fun d => (d, .complete)
    else .ok (d, .level b)
  | .complete => .error .malformed

/-- Takes in what is left, from a place on. -/
def readFrom (written : String) (d : Directive) (stage : Stage) (i : Nat) :
    List Char → Except DirectiveFault Directive
  | [] =>
    match stage with
    | .word b => (cutFrom written b).map d.withWord
    | .level b => (cutFrom written b).bind d.withLevel
    | .afterSpan | .complete => .ok d
    | _ => .error .malformed
  | c :: rest =>
    match step written d i c stage with
    | .ok (d, stage) => readFrom written d stage (i + c.utf8Size) rest
    | .error e => .error e

/-- **Reads a directive.** -/
def read (s : String) : Except DirectiveFault Directive :=
  readFrom s {} .start 0 (Text.trim s.toList)

end Directive

end Tenancy
