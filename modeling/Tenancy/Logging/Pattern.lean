import Tenancy.Bytes.Hex
import Tenancy.Text.Alphanumeric
import Tenancy.Text.Blank

/-!
# Logging/Pattern — patterns that the values of fields are asked to match

Only spans have fields that are matched, and events stand in no span; so all that counts is whether
a pattern can be used at all. Its groups and classes are closed, its repetitions repeat something
and its escapes are known. The classes with a letter, and letters of any size, are known for ASCII
only, which a pattern has to ask for by switching the flag `u` off. A comma or a closing brace ends
the field, so no pattern holds them.
-/

namespace Tenancy.Pattern

/-- Why a pattern cannot be used. -/
inductive Fault where
  | malformed
  /-- It asks for the edges of words in any script. -/
  | wordEdge
  deriving Repr, DecidableEq

def Fault.message : Fault → String
  | .malformed => "error building NFA"
  | .wordEdge =>
    "unsupported regex feature for DFAs: cannot build DFAs for regexes with Unicode word " ++
      "boundaries; switch to ASCII word boundaries, or heuristically enable Unicode word " ++
      "boundaries or use a different regex engine"

/-! ## Flags -/

structure Flags where
  unicode : Bool := true
  /-- Small and capital letters are the same. -/
  caseless : Bool := false
  /-- Blanks and comments between the items do not count. -/
  spaced : Bool := false

namespace Flags

def set (f : Flags) (on : Bool) (letter : Char) : Option Flags :=
  if letter == 'u' then some { f with unicode := on }
  else if letter == 'i' then some { f with caseless := on }
  else if letter == 'x' then some { f with spaced := on }
  else if ['m', 's', 'U', 'R'].contains letter then some f
  else none

/-- Reads letters up to a colon or a closing parenthesis, which stays. A letter comes once; those
after the hyphen are switched off. `seen` holds what has been read, the latest first. -/
def readFrom (on : Bool) (seen : List Char) (f : Flags) : List Char → Option (Flags × List Char)
  | [] => none
  | c :: cs =>
    if c == ':' || c == ')' then
      if seen.head? == some '-' || (c == ')' && seen.isEmpty) then none else some (f, c :: cs)
    else if seen.contains c then none
    else if c == '-' then readFrom false (c :: seen) f cs
    else (f.set on c).bind fun f => readFrom on (c :: seen) f cs

end Flags

/-! ## Escapes -/

/-- What an escape stands for. -/
inductive Escaped where
  /-- A character by its number; `isByte` when two hex digits give it. -/
  | char (number : Nat) (isByte : Bool)
  /-- The digits, the blanks or the characters of words, or all others. -/
  | set (negated : Bool)
  | edge
  | anchor

def hexDigit? (c : Char) : Option Nat :=
  if c.toNat < 128 then Hex.value? (UInt8.ofNat c.toNat) else none

/-- A character by so many hex digits. -/
def numbered? (width : Nat) (cs : List Char) : Option (Escaped × List Char) := do
  let ds ← (cs.take width).mapM hexDigit?
  let n := ds.foldl (fun n d => 16 * n + d) 0
  if ds.length = width && (n < 0xD800 || (0xDFFF < n && n < 0x110000)) then
    some (.char n (width == 2), cs.drop width)
  else none

/-- What follows a backslash. -/
def escape? : List Char → Option (Escaped × List Char)
  | [] => none
  | c :: cs =>
    if c == 'x' then numbered? 2 cs
    else if c == 'u' then numbered? 4 cs
    else if c == 'U' then numbered? 8 cs
    else if ['d', 's', 'w'].contains c then some (.set false, cs)
    else if ['D', 'S', 'W'].contains c then some (.set true, cs)
    else if ['b', 'B', '<', '>'].contains c then
      if c == 'b' && cs.head? == some '{' then none else some (.edge, cs)
    else if ['A', 'z'].contains c then some (.anchor, cs)
    else if ['a', 'f', 'n', 'r', 't', 'v'].contains c || (c.toNat < 128 && !c.isAlphanum) then
      some (.char c.toNat false, cs)
    else none

/-- An escape outside a class can be used. -/
def Escaped.isUsable (f : Flags) : Escaped → Bool
  | .char n isByte => if f.unicode then !f.caseless else !(isByte && 0x7F < n)
  | .set negated => !f.unicode && !negated
  | .edge => true
  | .anchor => true

/-! ## Classes -/

/-- An item of a class, with the number of the character that it is, if it is one. -/
def classItem? (f : Flags) : List Char → Option (Option Nat × List Char)
  | [] => none
  | '\\' :: cs =>
    match escape? cs with
    | some (.char n _, rest) => if f.unicode || n < 128 then some (some n, rest) else none
    | some (.set negated, rest) =>
      if (Escaped.set negated).isUsable f then some (none, rest) else none
    | _ => none
  | c :: cs => if f.unicode || c.toNat < 128 then some (some c.toNat, cs) else none

/-- What follows the opening bracket, a caret after it, and the hyphens or the closing bracket that
stand for themselves there. -/
def classStart? (f : Flags) (cs : List Char) : Option (List Char) :=
  let negated := cs.head? == some '^'
  let cs := if negated then cs.drop 1 else cs
  if negated && !f.unicode then none
  else if cs.head? == some '-' then some (cs.dropWhile (· == '-'))
  else if cs.head? == some ']' then some (cs.drop 1)
  else some cs

def classNames : List String :=
  ["alnum", "alpha", "ascii", "blank", "cntrl", "digit", "graph", "lower", "print", "punct",
    "space", "upper", "word", "xdigit"]

/-- A class by its name, after its opening bracket; whether it is negated, and what follows. -/
def namedClass? : List Char → Option (Bool × List Char)
  | ':' :: cs =>
    let negated := cs.head? == some '^'
    let cs := if negated then cs.drop 1 else cs
    let name := String.ofList (cs.takeWhile (· != ':'))
    match cs.dropWhile (· != ':') with
    | ':' :: ']' :: rest => if classNames.contains name then some (negated, rest) else none
    | _ => none
  | _ => none

/-- What follows a class, `depth` being how many classes it stands in. -/
def afterClass? (f : Flags) : Nat → Nat → List Char → Option (List Char)
  | 0, _, _ => none
  | _ + 1, _, [] => none
  | fuel + 1, depth, c :: cs =>
    if c == ']' then if depth = 0 then some cs else afterClass? f fuel (depth - 1) cs
    else if c == '[' then
      match namedClass? cs with
      | some (negated, rest) =>
        if negated && !f.unicode then none else afterClass? f fuel depth rest
      | none => (classStart? f cs).bind fun rest => afterClass? f fuel (depth + 1) rest
    else if ['&', '-', '~'].contains c && cs.head? == some c then
      afterClass? f fuel depth (cs.drop 1)
    else
      match classItem? f (c :: cs) with
      | none => none
      | some (first, '-' :: next :: rest) =>
        if next == ']' || next == '-' then afterClass? f fuel depth ('-' :: next :: rest)
        else
          match first, classItem? f (next :: rest) with
          | some a, some (some b, rest) => if a ≤ b then afterClass? f fuel depth rest else none
          | _, _ => none
      | some (_, rest) => afterClass? f fuel depth rest

/-! ## Groups -/

/-- How far a pattern has been read. -/
structure Progress where
  flags : Flags := {}
  /-- The flags outside each group that is open, the innermost first. -/
  outer : List Flags := []
  /-- The names of groups. -/
  names : List String := []
  /-- There is something for a repetition to repeat. -/
  isRepeatable : Bool := false
  hasEdge : Bool := false

namespace Progress

def entered (p : Progress) (inside : Flags) : Progress :=
  { p with flags := inside, outer := p.flags :: p.outer, isRepeatable := false }

def passed (p : Progress) : Progress :=
  { p with isRepeatable := true }

end Progress

def isGroupName (name : List Char) : Bool :=
  let startsWell := name.head?.any fun c => c == '_' || (Text.isAlphanumeric c && !c.isDigit)
  startsWell && name.all fun c => ['_', '.', '[', ']'].contains c || Text.isAlphanumeric c

def namedGroup? (p : Progress) (cs : List Char) : Option (Progress × List Char) :=
  let name := cs.takeWhile (· != '>')
  match cs.dropWhile (· != '>') with
  | '>' :: rest =>
    if isGroupName name && !p.names.contains (String.ofList name) then
      some ({ p with names := String.ofList name :: p.names }.entered p.flags, rest)
    else none
  | _ => none

/-- What comes of an opening parenthesis: a group, or flags for the rest of the group around. -/
def group? (p : Progress) : List Char → Option (Progress × List Char)
  | '?' :: 'P' :: '<' :: cs => namedGroup? p cs
  | '?' :: '<' :: cs => namedGroup? p cs
  | '?' :: cs =>
    match Flags.readFrom true [] p.flags cs with
    | some (f, ')' :: rest) => some ({ p with flags := f, isRepeatable := false }, rest)
    | some (f, _ :: rest) => some (p.entered f, rest)
    | _ => none
  | cs => some (p.entered p.flags, cs)

/-! ## Patterns -/

/-- Reads a pattern to its end; whether it asks for the edges of words in any script. -/
def readFrom : Nat → Progress → List Char → Option Bool
  | 0, _, _ => none
  | _ + 1, p, [] => if p.outer.isEmpty then some p.hasEdge else none
  | fuel + 1, p, c :: cs =>
    if p.flags.spaced && Text.isBlank c then readFrom fuel p cs
    else if p.flags.spaced && c == '#' then readFrom fuel p (cs.dropWhile (· != '\n'))
    else if c == '(' then (group? p cs).bind fun r => readFrom fuel r.1 r.2
    else if c == ')' then
      match p.outer with
      | [] => none
      | f :: outer => readFrom fuel { p with flags := f, outer, isRepeatable := true } cs
    else if c == '|' then readFrom fuel { p with isRepeatable := false } cs
    else if ['?', '*', '+'].contains c then
      if p.isRepeatable then readFrom fuel p (if cs.head? == some '?' then cs.drop 1 else cs)
      else none
    else if c == '{' then none
    else if c == '[' then
      if p.flags.unicode && p.flags.caseless then none
      else do
        let start ← classStart? p.flags cs
        let rest ← afterClass? p.flags (start.length + 1) 0 start
        readFrom fuel p.passed rest
    else if c == '\\' then
      match escape? cs with
      | some (.edge, rest) =>
        readFrom fuel { p.passed with hasEdge := p.hasEdge || p.flags.unicode } rest
      | some (e, rest) => if e.isUsable p.flags then readFrom fuel p.passed rest else none
      | none => none
    else if c == '^' || c == '$' then readFrom fuel p.passed cs
    else if c == '.' then if p.flags.unicode then readFrom fuel p.passed cs else none
    else if p.flags.unicode && p.flags.caseless then none
    else readFrom fuel p.passed cs

/-- **Finds out whether a pattern can be used.** -/
def check (s : String) : Except Fault Unit :=
  match readFrom (s.toList.length + 1) {} s.toList with
  | some false => .ok ()
  | some true => .error .wordEdge
  | none => .error .malformed

end Tenancy.Pattern
