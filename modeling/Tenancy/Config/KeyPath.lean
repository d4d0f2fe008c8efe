import Tenancy.Config.Setting

/-!
# Config/KeyPath — names that reach into tables

`a.b[2].c` goes from a table to a member, to an item, to a member. A name that is not written like
this stands for itself.
-/

namespace Tenancy

inductive KeyStep where
  | member (name : String)
  | item (index : Int)
  deriving Repr, DecidableEq

/-- The steps from the top to a value. -/
abbrev KeyPath := List KeyStep

namespace KeyPath

/-- How many values a list can hold at most. -/
def listLimit : Nat := 96076792050570581

/-- No list is long enough for one of the items. -/
def isOutOfReach (path : KeyPath) : Bool :=
  path.any fun
    | .member _ => false
    | .item index => listLimit ≤ index.natAbs

/-! ## Reading -/

/-- Letters, digits, `_`, `-` and the space. -/
def isNameChar (c : Char) : Bool :=
  c.isAlphanum || c == '_' || c == '-' || c == ' '

def name? (cs : List Char) : Option (KeyStep × List Char) :=
  match cs.takeWhile isNameChar with
  | [] => none
  | name => some (.member (String.ofList name), cs.dropWhile isNameChar)

def isBlank (c : Char) : Bool :=
  c == ' ' || c == '\t'

/-- A whole number that fits 64 bits, blanks around it, up to the closing bracket. -/
def index? (cs : List Char) : Option (KeyStep × List Char) :=
  let cs := cs.dropWhile isBlank
  let negative := cs.head? == some '-'
  let cs := if negative then cs.drop 1 else cs
  let n : Int := (cs.takeWhile Char.isDigit).foldl (fun n c => n * 10 + (c.toNat - 48)) 0
  let n := if negative then -n else n
  if (cs.takeWhile Char.isDigit).isEmpty || !Decimal.fits64 n then none
  else
    match (cs.dropWhile Char.isDigit).dropWhile isBlank with
    | ']' :: rest => some (.item n, rest)
    | _ => none

/-- The steps after the first name, all of the text. -/
def stepsFrom? : Nat → List Char → Option (List KeyStep)
  | _, [] => some []
  | 0, _ => none
  | fuel + 1, c :: rest =>
    let step := if c == '.' then name? rest else if c == '[' then index? rest else none
    step.bind fun s => (stepsFrom? fuel s.2).map (s.1 :: ·)

/-- **The path that a name stands for.** -/
def ofName (name : String) : KeyPath :=
  let path := (name? name.toList).bind fun s =>
    (stepsFrom? s.2.length s.2).map (s.1 :: ·)
  path.getD [.member name]

end KeyPath

/-- **Puts a value at the end of a path.** Whatever is on the way becomes a table or a list. -/
def Setting.assign (new : Setting) : KeyPath → Setting → Setting
  | [], _ => new
  | [.member name], v => v.put name new
  | .member name :: path, v =>
    v.withMember name (assign new path ((v.member? name).getD .nothing))
  | .item index :: path, v =>
    v.withItem index (assign new path ((v.item? index).getD .nothing))

end Tenancy
