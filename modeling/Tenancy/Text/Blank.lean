/-!
# Text/Blank — which characters are blank, and trimming

`isBlank` is the Unicode property White_Space. `trim` cuts the longest blank run off both ends and
leaves everything between them alone.
-/

namespace Tenancy.Text

/-- The Unicode property White_Space. -/
def isBlank (c : Char) : Bool :=
  let n := c.toNat
  (9 ≤ n && n ≤ 13) || n == 32 || n == 0x85 || n == 0xA0 || n == 0x1680 ||
    (0x2000 ≤ n && n ≤ 0x200A) || n == 0x2028 || n == 0x2029 || n == 0x202F || n == 0x205F ||
    n == 0x3000

/-- The characters without the blank run at the end. -/
def trimEnd (cs : List Char) : List Char :=
  (cs.reverse.dropWhile isBlank).reverse

/-- The characters without the blank runs at both ends. -/
def trim (cs : List Char) : List Char :=
  trimEnd (cs.dropWhile isBlank)

/-- A text of blanks only, the empty one included. -/
def allBlank (s : String) : Bool :=
  s.toList.all isBlank

end Tenancy.Text
