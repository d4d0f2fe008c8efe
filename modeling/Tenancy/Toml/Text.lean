/-!
# Toml/Text — characters, comments and quoted strings

Every reader takes the characters from the front of a list and gives what follows them; `none` means
that they are not what is read. Quotation marks that close a string of several lines may have up to
two more before them, which belong to the text.
-/

namespace Tenancy.Toml

abbrev Reader (α : Type) := List Char → Option (α × List Char)

/-! ## Characters -/

def isBlank (c : Char) : Bool :=
  c == ' ' || c == '\t'

def skipBlank (cs : List Char) : List Char :=
  cs.dropWhile isBlank

/-- Characters that comments may hold: no controls but the tab. -/
def isVisible (c : Char) : Bool :=
  c == '\t' || (0x20 ≤ c.toNat && c.toNat != 0x7F)

/-- Characters that stand for themselves between quotation marks. -/
def isPlain (c : Char) : Bool :=
  isVisible c && c != '"' && c != '\\'

/-- Characters that may stand between apostrophes. -/
def isLiteral (c : Char) : Bool :=
  isVisible c && c != '\''

/-- What follows the end of a line. -/
def newline? : List Char → Option (List Char)
  | '\n' :: rest => some rest
  | '\r' :: '\n' :: rest => some rest
  | _ => none

/-- What follows a comment, if there is one; its line end stays. -/
def skipComment : List Char → List Char
  | '#' :: rest => rest.dropWhile isVisible
  | cs => cs

/-- What follows the rest of a line that holds nothing but blanks and a comment. -/
def lineEnd? (cs : List Char) : Option (List Char) :=
  match skipComment (skipBlank cs) with
  | [] => some []
  | cs => newline? cs

/-- What follows blanks, comments and line ends. -/
def skipLines : Nat → List Char → List Char
  | 0, cs => cs
  | fuel + 1, cs =>
    match skipComment (skipBlank cs) with
    | '\n' :: rest => skipLines fuel rest
    | '\r' :: '\n' :: rest => skipLines fuel rest
    | rest => rest

/-! ## Escapes -/

def isHexDigit (c : Char) : Bool :=
  c.isDigit || ('a' ≤ c && c ≤ 'f') || ('A' ≤ c && c ≤ 'F')

def hexDigitValue (c : Char) : Nat :=
  if c.isDigit then c.toNat - 48
  else if 'a' ≤ c then c.toNat - 87
  else c.toNat - 55

def hexNumber (cs : List Char) : Nat :=
  cs.foldl (fun n c => n * 16 + hexDigitValue c) 0

/-- The character whose number is written with so many hex digits. -/
def numberedChar (width : Nat) : Reader Char := fun cs =>
  let ds := cs.take width
  if ds.length = width && ds.all isHexDigit then
    let n := hexNumber ds
    if n < 0xD800 || (0xDFFF < n && n < 0x110000) then some (Char.ofNat n, cs.drop width) else none
  else none

/-- What follows a backslash. -/
def escape : Reader Char
  | 'b' :: rest => some ('\x08', rest)
  | 't' :: rest => some ('\t', rest)
  | 'n' :: rest => some ('\n', rest)
  | 'f' :: rest => some ('\x0c', rest)
  | 'r' :: rest => some ('\r', rest)
  | '"' :: rest => some ('"', rest)
  | '\\' :: rest => some ('\\', rest)
  | 'u' :: rest => numberedChar 4 rest
  | 'U' :: rest => numberedChar 8 rest
  | _ => none

/-! ## Strings -/

def consFirst (c : Char) (r : List Char × List Char) : List Char × List Char :=
  (c :: r.1, r.2)

/-- A string after its opening quotation mark. -/
def quoted : Nat → Reader (List Char)
  | 0, _ => none
  | _, [] => none
  | fuel + 1, c :: rest =>
    if c == '"' then some ([], rest)
    else if c == '\\' then
      match escape rest with
      | some (e, rest) => (quoted fuel rest).map (consFirst e)
      | none => none
    else if isPlain c then (quoted fuel rest).map (consFirst c)
    else none

/-- A string after its opening apostrophe. -/
def literal : Reader (List Char) := fun cs =>
  match cs.dropWhile isLiteral with
  | '\'' :: rest => some (cs.takeWhile isLiteral, rest)
  | _ => none

/-- What follows blanks and line ends. -/
def skipBlankLines : List Char → List Char
  | '\r' :: '\n' :: rest => skipBlankLines rest
  | c :: rest => if isBlank c || c == '\n' then skipBlankLines rest else c :: rest
  | [] => []

/-- What follows a backslash at the end of a line: it hides all blanks and line ends after it. -/
def hiddenLineEnd? (cs : List Char) : Option (List Char) :=
  (newline? (skipBlank cs)).map skipBlankLines

/-- A string of several lines after its opening marks. -/
def longQuoted : Nat → Reader (List Char)
  | 0, _ => none
  | _, [] => none
  | fuel + 1, c :: rest =>
    match newline? (c :: rest) with
    | some rest => (longQuoted fuel rest).map (consFirst '\n')
    | none =>
      if c == '"' then
        match rest with
        | '"' :: '"' :: '"' :: '"' :: rest => some (['"', '"'], rest)
        | '"' :: '"' :: '"' :: rest => some (['"'], rest)
        | '"' :: '"' :: rest => some ([], rest)
        | rest => (longQuoted fuel rest).map (consFirst '"')
      else if c == '\\' then
        match hiddenLineEnd? rest with
        | some rest => longQuoted fuel rest
        | none =>
          match escape rest with
          | some (e, rest) => (longQuoted fuel rest).map (consFirst e)
          | none => none
      else if isPlain c then (longQuoted fuel rest).map (consFirst c)
      else none

/-- A literal string of several lines after its opening marks. -/
def longLiteral : Nat → Reader (List Char)
  | 0, _ => none
  | _, [] => none
  | fuel + 1, c :: rest =>
    match newline? (c :: rest) with
    | some rest => (longLiteral fuel rest).map (consFirst '\n')
    | none =>
      if c == '\'' then
        match rest with
        | '\'' :: '\'' :: '\'' :: '\'' :: rest => some (['\'', '\''], rest)
        | '\'' :: '\'' :: '\'' :: rest => some (['\''], rest)
        | '\'' :: '\'' :: rest => some ([], rest)
        | rest => (longLiteral fuel rest).map (consFirst '\'')
      else if isLiteral c then (longLiteral fuel rest).map (consFirst c)
      else none

/-- A line end right after the opening marks is not part of the text. -/
def afterOpening (cs : List Char) : List Char :=
  (newline? cs).getD cs

/-- A string of any of the four kinds. -/
def stringValue : Reader String := fun cs =>
  let fuel := cs.length + 1
  let read : Option (List Char × List Char) :=
    match cs with
    | '"' :: '"' :: '"' :: rest => longQuoted fuel (afterOpening rest)
    | '\'' :: '\'' :: '\'' :: rest => longLiteral fuel (afterOpening rest)
    | '"' :: rest => quoted fuel rest
    | '\'' :: rest => literal rest
    | _ => none
  read.map fun r => (String.ofList r.1, r.2)

/-! ## Keys -/

def isBare (c : Char) : Bool :=
  c.isAlphanum || c == '_' || c == '-'

def simpleKey : Reader String
  | '"' :: rest => (quoted (rest.length + 1) rest).map fun r => (String.ofList r.1, r.2)
  | '\'' :: rest => (literal rest).map fun r => (String.ofList r.1, r.2)
  | cs =>
    match cs.takeWhile isBare with
    | [] => none
    | name => some (String.ofList name, cs.dropWhile isBare)

/-- Keys with points between them, blanks around each. -/
def dottedKeyFrom : Nat → Reader (List String)
  | 0, _ => none
  | fuel + 1, cs =>
    match simpleKey (skipBlank cs) with
    | none => none
    | some (k, rest) =>
      match skipBlank rest with
      | '.' :: rest => (dottedKeyFrom fuel rest).map fun r => (k :: r.1, r.2)
      | rest => some ([k], rest)

/-- How deep keys and values may be nested. -/
def depthLimit : Nat := 80

def dottedKey : Reader (List String) := fun cs =>
  match dottedKeyFrom (cs.length + 1) cs with
  | some (ks, rest) => if ks.length < depthLimit then some (ks, rest) else none
  | none => none

end Tenancy.Toml
