import Tenancy.Bytes.Basic
import Tenancy.Text.Utf8

/-!
# Json/Value — JSON values and their text

An object keeps its members in the order of the text, repeated keys included. A string may hold
something that is no text (ill-formed UTF-8, a lone surrogate); such a string is `none` and matters
only to a reader that wants its text. A number is kept as it was written.
-/

namespace Tenancy

inductive Json where
  | null
  | bool (b : Bool)
  | number (written : String)
  | text (s : Option String)
  | array (items : List Json)
  | object (members : List (Option String × Json))
  deriving Inhabited

namespace Json

def str (s : String) : Json :=
  .text (some s)

def nat (n : Nat) : Json :=
  .number (toString n)

def obj (members : List (String × Json)) : Json :=
  .object (members.map fun m => (some m.1, m.2))

def strs (ss : List String) : Json :=
  .array (ss.map str)

/-- The value, or null. -/
def opt (x : Option Json) : Json :=
  x.getD .null

/-! ## Written form -/

def hexDigit (n : Nat) : Char :=
  if n < 10 then Char.ofNat (48 + n) else Char.ofNat (87 + n)

/-- Quotation mark, backslash and control characters are escaped, the common ones by a letter. -/
def escapeChar (c : Char) : List Char :=
  if c == '"' then ['\\', '"']
  else if c == '\\' then ['\\', '\\']
  else if c.toNat == 8 then ['\\', 'b']
  else if c.toNat == 9 then ['\\', 't']
  else if c.toNat == 10 then ['\\', 'n']
  else if c.toNat == 12 then ['\\', 'f']
  else if c.toNat == 13 then ['\\', 'r']
  else if c.toNat < 32 then
    ['\\', 'u', '0', '0', hexDigit (c.toNat / 16), hexDigit (c.toNat % 16)]
  else [c]

def quoteChars (cs : List Char) : List Char :=
  '"' :: (cs.flatMap escapeChar ++ ['"'])

/-- A string in quotation marks. -/
def quote (s : String) : String :=
  String.ofList (quoteChars s.toList)

/-- Between items stands a comma and nothing else. -/
def joined (parts : List String) : String :=
  String.intercalate "," parts

mutual

/-- The text of a value, without blanks. -/
def render : Json → String
  | .null => "null"
  | .bool b => if b then "true" else "false"
  | .number w => w
  | .text (some s) => quote s
  | .text none => "\"\uFFFD\""
  | .array items => "[" ++ joined (renderItems items) ++ "]"
  | .object members => "\x7b" ++ joined (renderMembers members) ++ "\x7d"

def renderItems : List Json → List String
  | [] => []
  | j :: js => render j :: renderItems js

def renderMembers : List (Option String × Json) → List String
  | [] => []
  | (k, j) :: ms => (quote (k.getD "\uFFFD") ++ ":" ++ render j) :: renderMembers ms

end

end Json

end Tenancy
