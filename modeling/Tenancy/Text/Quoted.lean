import Tenancy.Text.Unprintable

/-!
# Text/Quoted — texts between quotation marks

Tab, line ends and NUL are escaped by a letter, unprintable characters by their number in hex, and
the quotation mark and the backslash by a backslash. A character alone stands between apostrophes
and escapes them instead of the quotation mark.
-/

namespace Tenancy.Text

/-- The lower-case hex digits of a number. -/
def hexNumber (n : Nat) : List Char :=
  Nat.toDigits 16 n

/-- How a character is shown where each of `marks` takes a backslash before it. -/
def escapeChar (marks : List Char) (c : Char) : List Char :=
  if c.toNat == 0 then ['\\', '0']
  else if c == '\t' then ['\\', 't']
  else if c == '\r' then ['\\', 'r']
  else if c == '\n' then ['\\', 'n']
  else if marks.contains c then ['\\', c]
  else if isUnprintable c then ['\\', 'u', '\x7b'] ++ hexNumber c.toNat ++ ['\x7d']
  else [c]

/-- A text between quotation marks. -/
def quoted (s : String) : String :=
  String.ofList ('"' :: (s.toList.flatMap (escapeChar ['"', '\\']) ++ ['"']))

/-- A character between apostrophes. -/
def quotedChar (c : Char) : String :=
  String.ofList ('\'' :: (escapeChar ['\'', '\\'] c ++ ['\'']))

end Tenancy.Text
