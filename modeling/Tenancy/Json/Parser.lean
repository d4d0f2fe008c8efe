import Tenancy.Json.Value

/-!
# Json/Parser — reading JSON text

The reader takes the grammar as it stands: no comments, no trailing commas, no leading zeros, only
the four blank characters. Bytes inside strings are not looked at until a reader asks for the text.
-/

namespace Tenancy.Json

/-! ## Strings -/

/-- A piece of a string: a byte that stands for itself, or a code unit that an escape names. -/
inductive Piece where
  | byte (b : UInt8)
  | unit (u : Nat)
  deriving Repr, DecidableEq

def hexValue? (b : UInt8) : Option Nat :=
  if 48 ≤ b && b ≤ 57 then some (b.toNat - 48)
  else if 97 ≤ b && b ≤ 102 then some (b.toNat - 87)
  else if 65 ≤ b && b ≤ 70 then some (b.toNat - 55)
  else none

/-- The byte that a one-letter escape stands for. -/
def escaped? (b : UInt8) : Option UInt8 :=
  if b == 34 || b == 92 || b == 47 then some b
  else if b == 98 then some 8
  else if b == 102 then some 12
  else if b == 110 then some 10
  else if b == 114 then some 13
  else if b == 116 then some 9
  else none

/-- The pieces up to the closing quotation mark, and what follows it. Control characters are
refused. -/
def pieces : Bytes → Option (List Piece × Bytes)
  | [] => none
  | 34 :: rest => some ([], rest)
  | 92 :: 117 :: a :: b :: c :: d :: rest =>
    match hexValue? a, hexValue? b, hexValue? c, hexValue? d with
    | some a, some b, some c, some d =>
      (pieces rest).map fun r => (.unit (((a * 16 + b) * 16 + c) * 16 + d) :: r.1, r.2)
    | _, _, _, _ => none
  | 92 :: e :: rest =>
    match escaped? e with
    | some b => (pieces rest).map fun r => (.byte b :: r.1, r.2)
    | none => none
  | b :: rest =>
    if b < 32 || b == 92 then none
    else (pieces rest).map fun r => (.byte b :: r.1, r.2)

/-- The bytes of the text, code units in pairs where they are surrogates; `none` for a lone one. -/
def assemble : List Piece → Option Bytes
  | [] => some []
  | .byte b :: ps => (assemble ps).map (b :: ·)
  | .unit u :: ps =>
    if u < 0xD800 || 0xDFFF < u then
      (assemble ps).map (String.utf8EncodeChar (Char.ofNat u) ++ ·)
    else if 0xDC00 ≤ u then none
    else
      match ps with
      | .unit v :: qs =>
        if 0xDC00 ≤ v && v ≤ 0xDFFF then
          (assemble qs).map
            (String.utf8EncodeChar (Char.ofNat (0x10000 + (u - 0xD800) * 1024 + (v - 0xDC00))) ++ ·)
        else none
      | _ => none

/-- The text of a string, if its pieces make one. -/
def textOf (ps : List Piece) : Option String :=
  match assemble ps with
  | some bs => (Text.decode? bs).map String.ofList
  | none => none

/-! ## Blanks, words and numbers -/

def isSpace (b : UInt8) : Bool :=
  b == 32 || b == 10 || b == 13 || b == 9

def skipSpace (bs : Bytes) : Bytes :=
  bs.dropWhile isSpace

def isDigit (b : UInt8) : Bool :=
  48 ≤ b && b ≤ 57

/-- What follows a run of at least one digit. -/
def digits1 (bs : Bytes) : Option (Bytes × Bytes) :=
  match bs.takeWhile isDigit with
  | [] => none
  | ds => some (ds, bs.dropWhile isDigit)

/-- Zero, or digits that do not begin with it. -/
def wholePart (bs : Bytes) : Option (Bytes × Bytes) :=
  match bs with
  | 48 :: rest =>
    match rest with
    | d :: _ => if isDigit d then none else some ([48], rest)
    | [] => some ([48], rest)
  | _ => digits1 bs

def fraction (bs : Bytes) : Option (Bytes × Bytes) :=
  match bs with
  | 46 :: rest => (digits1 rest).map fun r => (46 :: r.1, r.2)
  | _ => some ([], bs)

def exponent (bs : Bytes) : Option (Bytes × Bytes) :=
  match bs with
  | e :: rest =>
    if e == 101 || e == 69 then
      match rest with
      | s :: rest' =>
        if s == 43 || s == 45 then (digits1 rest').map fun r => (e :: s :: r.1, r.2)
        else (digits1 rest).map fun r => (e :: r.1, r.2)
      | [] => none
    else some ([], bs)
  | [] => some ([], bs)

def unsigned (bs : Bytes) : Option (Bytes × Bytes) := do
  let (w, bs) ← wholePart bs
  let (f, bs) ← fraction bs
  let (e, bs) ← exponent bs
  some (w ++ f ++ e, bs)

def asciiString (bs : Bytes) : String :=
  String.ofList (bs.map fun b => Char.ofNat b.toNat)

def number? (bs : Bytes) : Option (Json × Bytes) :=
  match bs with
  | 45 :: rest => (unsigned rest).map fun r => (.number (asciiString (45 :: r.1)), r.2)
  | _ => (unsigned bs).map fun r => (.number (asciiString r.1), r.2)

/-- What follows a given word. -/
def word? (w : Bytes) (bs : Bytes) : Option Bytes :=
  if bs.take w.length = w then some (bs.drop w.length) else none

/-! ## Values

Every step into a value or past an item takes a byte, so `fuel` above the length is never used up.
-/

mutual

def value : Nat → Bytes → Option (Json × Bytes)
  | 0, _ => none
  | fuel + 1, bs =>
    match skipSpace bs with
    | [] => none
    | b :: rest =>
      if b == 34 then (pieces rest).map fun r => (.text (textOf r.1), r.2)
      else if b == 91 then
        match skipSpace rest with
        | 93 :: rest => some (.array [], rest)
        | rest => (items fuel rest).map fun r => (.array r.1, r.2)
      else if b == 123 then
        match skipSpace rest with
        | 125 :: rest => some (.object [], rest)
        | rest => (members fuel rest).map fun r => (.object r.1, r.2)
      else if b == 110 then (word? [110, 117, 108, 108] (b :: rest)).map fun r => (.null, r)
      else if b == 116 then (word? [116, 114, 117, 101] (b :: rest)).map fun r => (.bool true, r)
      else if b == 102 then
        (word? [102, 97, 108, 115, 101] (b :: rest)).map fun r => (.bool false, r)
      else number? (b :: rest)

/-- One or more values with commas between, up to the closing bracket. -/
def items : Nat → Bytes → Option (List Json × Bytes)
  | 0, _ => none
  | fuel + 1, bs =>
    match value fuel bs with
    | none => none
    | some (j, rest) =>
      match skipSpace rest with
      | 44 :: rest => (items fuel rest).map fun r => (j :: r.1, r.2)
      | 93 :: rest => some ([j], rest)
      | _ => none

/-- One or more members with commas between, up to the closing brace. -/
def members : Nat → Bytes → Option (List (Option String × Json) × Bytes)
  | 0, _ => none
  | fuel + 1, bs =>
    match skipSpace bs with
    | 34 :: rest =>
      match pieces rest with
      | none => none
      | some (k, rest) =>
        match skipSpace rest with
        | 58 :: rest =>
          match value fuel rest with
          | none => none
          | some (j, rest) =>
            match skipSpace rest with
            | 44 :: rest => (members fuel rest).map fun r => ((textOf k, j) :: r.1, r.2)
            | 125 :: rest => some ([(textOf k, j)], rest)
            | _ => none
        | _ => none
    | _ => none

end

/-- The value that the bytes hold, with nothing but blanks around it. -/
def parse (bs : Bytes) : Option Json :=
  match value (2 * bs.length + 2) bs with
  | some (j, rest) => if (skipSpace rest).isEmpty then some j else none
  | none => none

def parseString (s : String) : Option Json :=
  parse (utf8 s)

end Tenancy.Json
