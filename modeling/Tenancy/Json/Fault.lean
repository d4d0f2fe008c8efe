import Tenancy.Json.Number
import Tenancy.Text.Quoted

/-!
# Json/Fault — where and why the reading of a text ends

A scan goes through the bytes of a line and stops at the first thing it cannot take. A fault has
its column: the number of bytes up to and with the one that was looked at, or up to the one that
was taken last.
-/

namespace Tenancy.Json

inductive FaultKind where
  | endOfList
  | endOfObject
  | endOfString
  | endOfValue
  | colon
  | listCommaOrEnd
  | objectCommaOrEnd
  | word
  | value
  | escape
  | number
  | outOfRange
  | codePoint
  | controlCharacter
  | key
  | loneSurrogate
  | trailingComma
  | trailingCharacters
  | endOfHexEscape
  | repeatedField (name : String)
  | unexpected (found wanted : String)
  deriving Repr, DecidableEq

def FaultKind.text : FaultKind → String
  | .endOfList => "EOF while parsing a list"
  | .endOfObject => "EOF while parsing an object"
  | .endOfString => "EOF while parsing a string"
  | .endOfValue => "EOF while parsing a value"
  | .colon => "expected `:`"
  | .listCommaOrEnd => "expected `,` or `]`"
  | .objectCommaOrEnd => "expected `,` or `\x7d`"
  | .word => "expected ident"
  | .value => "expected value"
  | .escape => "invalid escape"
  | .number => "invalid number"
  | .outOfRange => "number out of range"
  | .codePoint => "invalid unicode code point"
  | .controlCharacter => "control character (\\u0000-\\u001F) found while parsing a string"
  | .key => "key must be a string"
  | .loneSurrogate => "lone leading surrogate in hex escape"
  | .trailingComma => "trailing comma"
  | .trailingCharacters => "trailing characters"
  | .endOfHexEscape => "unexpected end of hex escape"
  | .repeatedField name => s!"duplicate field `{name}`"
  | .unexpected found wanted => s!"invalid type: {found}, expected {wanted}"

structure Fault where
  kind : FaultKind
  column : Nat
  deriving Repr, DecidableEq

/-- The wording, for a text of one line. -/
def Fault.message (f : Fault) : String :=
  f.kind.text ++ s!" at line 1 column {f.column}"

/-! ## Scans -/

/-- What a scan gives: its result, or what is wrong and how many bytes are left there. -/
abbrev Scan (α : Type) := Except (FaultKind × Nat) α

namespace Scan

/-- A fault after the last byte taken. -/
def here {α : Type} (kind : FaultKind) (rest : Bytes) : Scan α :=
  .error (kind, rest.length)

/-- A fault at the byte looked at. -/
def next {α : Type} (kind : FaultKind) (rest : Bytes) : Scan α :=
  .error (kind, rest.length - 1)

/-! ## Strings -/

def hexUnit : Bytes → Scan (Nat × Bytes)
  | a :: b :: c :: d :: rest =>
    match hexValue? a, hexValue? b, hexValue? c, hexValue? d with
    | some a, some b, some c, some d => .ok (((a * 16 + b) * 16 + c) * 16 + d, rest)
    | _, _, _, _ => here .escape rest
  | _ => here .endOfString []

/-- The second half of a surrogate pair that begins with a unit. -/
def pairOf (unit : Nat) (bs : Bytes) : Scan Bytes :=
  if 0xDC00 ≤ unit && unit ≤ 0xDFFF then here .loneSurrogate bs
  else if unit < 0xD800 || 0xDBFF < unit then .ok bs
  else
    match bs with
    | [] => here .endOfString []
    | 92 :: [] => here .endOfString []
    | 92 :: 117 :: rest => do
      let (low, rest) ← hexUnit rest
      if low < 0xDC00 || 0xDFFF < low then here .loneSurrogate rest else .ok rest
    | 92 :: _ :: rest => here .endOfHexEscape rest
    | _ :: rest => here .endOfHexEscape rest

/-- What follows a backslash; surrogates have to come in pairs only where the text matters. -/
def escapeRest (strict : Bool) : Bytes → Scan Bytes
  | [] => here .endOfString []
  | 117 :: rest => do
    let (unit, rest) ← hexUnit rest
    if strict then pairOf unit rest else .ok rest
  | e :: rest => if (escaped? e).isSome then .ok rest else here .escape rest

/-- What follows the opening quotation mark, up to the closing one. -/
def stringRest (strict : Bool) : Nat → Bytes → Scan Bytes
  | 0, bs => here .endOfString bs
  | _, [] => here .endOfString []
  | fuel + 1, b :: rest =>
    if b == 34 then .ok rest
    else if b == 92 then
      match escapeRest strict rest with
      | .ok rest => stringRest strict fuel rest
      | .error e => .error e
    else if b < 32 then here .controlCharacter (if strict then rest else b :: rest)
    else stringRest strict fuel rest

/-- A string that nobody reads. -/
def skipString (bs : Bytes) : Scan Bytes :=
  stringRest false (bs.length + 1) bs

/-- A string and its text. -/
def readString (bs : Bytes) : Scan (String × Bytes) := do
  let rest ← stringRest true (bs.length + 1) bs
  match (pieces bs).bind fun p => textOf p.1 with
  | some s => .ok (s, rest)
  | none => here .codePoint rest

/-! ## Words and numbers -/

def wordRest : Bytes → Bytes → Scan Bytes
  | [], bs => .ok bs
  | _ :: _, [] => here .endOfValue []
  | w :: ws, b :: bs => if b == w then wordRest ws bs else here .word bs

/-- The digits after an exponent's sign; `atEnd` is the fault when the text ends there. -/
def exponentRest (atEnd : FaultKind) (bs : Bytes) : Scan Bytes :=
  let bs := match bs with
    | b :: rest => if b == 43 || b == 45 then rest else bs
    | [] => bs
  match bs with
  | [] => here atEnd []
  | b :: rest => if isDigit b then .ok (rest.dropWhile isDigit) else here .number rest

def afterFraction (atEnd : FaultKind) (bs : Bytes) : Scan Bytes :=
  match bs with
  | b :: rest => if b == 101 || b == 69 then exponentRest atEnd rest else .ok bs
  | [] => .ok []

def afterWhole (atEnd : FaultKind) (bs : Bytes) : Scan Bytes :=
  match bs with
  | 46 :: rest =>
    match rest with
    | [] => here atEnd []
    | b :: _ =>
      if isDigit b then afterFraction atEnd (rest.dropWhile isDigit) else next .number rest
  | bs => afterFraction atEnd bs

/-- A number after its sign. -/
def numberRest (atEnd : FaultKind) : Bytes → Scan Bytes
  | [] => here atEnd []
  | b :: rest =>
    if b == 48 then
      match rest with
      | d :: _ => if isDigit d then next .number rest else afterWhole atEnd rest
      | [] => .ok []
    else if isDigit b then afterWhole atEnd (rest.dropWhile isDigit)
    else here .number rest

/-! ## Values that nobody reads -/

mutual

def skipValue : Nat → Bytes → Scan Bytes
  | 0, bs => here .endOfValue bs
  | fuel + 1, bs =>
    match skipSpace bs with
    | [] => next .endOfValue []
    | b :: rest =>
      if b == 34 then skipString rest
      else if b == 91 then
        match skipSpace rest with
        | [] => next .endOfList []
        | 93 :: rest => .ok rest
        | rest => skipItems fuel rest
      else if b == 123 then
        match skipSpace rest with
        | [] => next .endOfObject []
        | 125 :: rest => .ok rest
        | rest => skipMembers fuel rest
      else if b == 110 then wordRest [117, 108, 108] rest
      else if b == 116 then wordRest [114, 117, 101] rest
      else if b == 102 then wordRest [97, 108, 115, 101] rest
      else if b == 45 then numberRest .number rest
      else if isDigit b then numberRest .number (b :: rest)
      else next .value (b :: rest)

def skipItems : Nat → Bytes → Scan Bytes
  | 0, bs => here .endOfValue bs
  | fuel + 1, bs => do
    let rest ← skipValue fuel bs
    match skipSpace rest with
    | [] => next .endOfList []
    | 44 :: rest => skipItems fuel rest
    | 93 :: rest => .ok rest
    | rest => next .listCommaOrEnd rest

def skipMembers : Nat → Bytes → Scan Bytes
  | 0, bs => here .endOfValue bs
  | fuel + 1, bs =>
    match skipSpace bs with
    | [] => next .endOfObject []
    | 34 :: rest => do
      let rest ← skipString rest
      match skipSpace rest with
      | [] => next .endOfObject []
      | 58 :: rest => do
        let rest ← skipValue fuel rest
        match skipSpace rest with
        | [] => next .endOfObject []
        | 44 :: rest => skipMembers fuel rest
        | 125 :: rest => .ok rest
        | rest => next .objectCommaOrEnd rest
      | rest => next .colon rest
    | rest => next .key rest

end

def skip (bs : Bytes) : Scan Bytes :=
  skipValue (2 * bs.length + 2) bs

/-! ## Values of a kind -/

/-- What a number is called. -/
def numberName (written : String) : Option String :=
  (numberValue? written).map fun
    | .whole n => s!"integer `{n}`"
    | .double d => s!"floating point `{d.shortText}`"

def unexpectedNumber {α : Type} (wanted : String) (negative : Bool) (bs : Bytes) : Scan α := do
  let rest ← numberRest .endOfValue bs
  let body := asciiString (bs.take (bs.length - rest.length))
  match numberName (if negative then "-" ++ body else body) with
  | some found => here (.unexpected found wanted) rest
  | none => here .outOfRange rest

def unexpectedWord {α : Type} (wanted found : String) (word bs : Bytes) : Scan α := do
  let rest ← wordRest word bs
  here (.unexpected found wanted) rest

/-- A value that is not of the kind that is wanted. -/
def unexpected {α : Type} (wanted : String) (bs : Bytes) : Scan α :=
  match bs with
  | [] => next .endOfValue []
  | b :: rest =>
    if b == 110 then unexpectedWord wanted "null" [117, 108, 108] rest
    else if b == 116 then unexpectedWord wanted "boolean `true`" [114, 117, 101] rest
    else if b == 102 then unexpectedWord wanted "boolean `false`" [97, 108, 115, 101] rest
    else if b == 45 then unexpectedNumber wanted true rest
    else if isDigit b then unexpectedNumber wanted false bs
    else if b == 34 then do
      let (s, rest) ← readString rest
      here (.unexpected ("string " ++ Text.quoted s) wanted) rest
    else if b == 91 then here (.unexpected "sequence" wanted) bs
    else if b == 123 then here (.unexpected "map" wanted) bs
    else next .value bs

def readText (bs : Bytes) : Scan Bytes :=
  match skipSpace bs with
  | 34 :: rest => (readString rest).map (·.2)
  | bs => unexpected "a string" bs

/-- A value or null. -/
def readOptional (read : Bytes → Scan Bytes) (bs : Bytes) : Scan Bytes :=
  match skipSpace bs with
  | 110 :: rest => wordRest [117, 108, 108] rest
  | bs => read bs

/-- The end of a list whose items have been read. -/
def listEnd (bs : Bytes) : Scan Bytes :=
  match skipSpace bs with
  | [] => next .endOfList []
  | 93 :: rest => .ok rest
  | 44 :: rest =>
    match skipSpace rest with
    | 93 :: rest => next .trailingComma (93 :: rest)
    | rest => next .trailingCharacters rest
  | rest => next .trailingCharacters rest

/-- Finds the next item of a list, if there is one. -/
def nextItem (first : Bool) (bs : Bytes) : Scan (Option Bytes) :=
  match skipSpace bs with
  | [] => next .endOfList []
  | b :: rest =>
    if b == 93 then .ok none
    else if first then .ok (some (b :: rest))
    else if b == 44 then
      match skipSpace rest with
      | [] => next .endOfValue []
      | 93 :: rest => next .trailingComma (93 :: rest)
      | rest => .ok (some rest)
    else next .listCommaOrEnd (b :: rest)

def readItems (read : Bytes → Scan Bytes) : Nat → Bool → Bytes → Scan Bytes
  | 0, _, bs => .ok bs
  | fuel + 1, first, bs => do
    match ← nextItem first bs with
    | none => .ok bs
    | some bs =>
      let rest ← read bs
      readItems read fuel false rest

def readList (read : Bytes → Scan Bytes) (bs : Bytes) : Scan Bytes :=
  match skipSpace bs with
  | 91 :: rest => do
    let rest ← readItems read (rest.length + 1) true rest
    listEnd rest
  | bs => unexpected "a sequence" bs

/-! ## Records -/

/-- Finds the next key of an object, after its quotation mark. -/
def nextKey (first : Bool) (bs : Bytes) : Scan (Option Bytes) :=
  match skipSpace bs with
  | [] => next .endOfObject []
  | b :: rest =>
    if b == 125 then .ok none
    else if first then
      if b == 34 then .ok (some rest) else next .key (b :: rest)
    else if b == 44 then
      match skipSpace rest with
      | [] => next .endOfValue []
      | 34 :: rest => .ok (some rest)
      | 125 :: rest => next .trailingComma (125 :: rest)
      | rest => next .key rest
    else next .objectCommaOrEnd (b :: rest)

def colonRest (bs : Bytes) : Scan Bytes :=
  match skipSpace bs with
  | [] => next .endOfObject []
  | 58 :: rest => .ok rest
  | rest => next .colon rest

/-- What follows the end of a record, where it ends. -/
def pastEnd (bs : Bytes) : Bytes :=
  match skipSpace bs with
  | 125 :: rest => rest
  | rest => rest

/-- The members of a record; `seen` are the fields that have been given. -/
def readMembers (fields : List (String × (Bytes → Scan Bytes))) :
    Nat → Bool → List String → Bytes → Scan Bytes
  | 0, _, _, bs => .ok bs
  | fuel + 1, first, seen, bs => do
    match ← nextKey first bs with
    | none => .ok (pastEnd bs)
    | some bs =>
      let (key, rest) ← readString bs
      match fields.lookup key with
      | some read =>
        if seen.contains key then here (.repeatedField key) (pastEnd rest)
        else
          let rest ← colonRest rest
          let rest ← read rest
          readMembers fields fuel false (key :: seen) rest
      | none =>
        let rest ← colonRest rest
        let rest ← skip rest
        readMembers fields fuel false seen rest

/-- The fields of a record that is given as a list. -/
def readFields : List (String × (Bytes → Scan Bytes)) → Bool → Bytes → Scan Bytes
  | [], _, bs => .ok bs
  | f :: fs, first, bs => do
    match ← nextItem first bs with
    | none => readFields fs first bs
    | some bs =>
      let rest ← f.2 bs
      readFields fs false rest

/-- A record, and nothing but blanks after it. -/
def readRecord (name : String) (fields : List (String × (Bytes → Scan Bytes))) (bs : Bytes) :
    Scan Unit := do
  let rest ←
    match skipSpace bs with
    | 91 :: rest => readFields fields true rest >>= listEnd
    | 123 :: rest => readMembers fields (rest.length + 1) true [] rest
    | bs => unexpected ("struct " ++ name) bs
  match skipSpace rest with
  | [] => .ok ()
  | rest => next .trailingCharacters rest

/-- The fault that a scan of a whole text ends in. -/
def fault? (text : Bytes) : Scan Unit → Option Fault
  | .ok () => none
  | .error (kind, left) => some ⟨kind, text.length - left⟩

end Scan

end Tenancy.Json
