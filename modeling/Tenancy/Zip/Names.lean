import Tenancy.Bytes.Basic
import Tenancy.Text.Utf8

/-!
# Zip/Names — the characters of entry names

A name is UTF-8 when its entry says so, read with U+FFFD for each ill-formed piece, and otherwise
one character a byte in code page 437.
-/

namespace Tenancy.Zip

/-- The characters of the bytes from 128 on in code page 437. -/
def upperHalf : List Char :=
  ("ÇüéâäàåçêëèïîìÄÅÉæÆôöòûùÿÖÜ¢£¥₧ƒ" ++
    "áíóúñÑªº¿⌐¬½¼¡«»░▒▓│┤╡╢╖╕╣║╗╝╜╛┐" ++
    "└┴┬├─┼╞╟╚╔╩╦╠═╬╧╨╤╥╙╘╒╓╫╪┘┌█▄▌▐▀" ++
    "αßΓπΣσµτΦΘΩδ∞φε∩≡±≥≤⌠⌡÷≈°∙·√ⁿ²■ ").toList

def codePageChar (b : UInt8) : Char :=
  if b < 128 then Char.ofNat b.toNat else upperHalf[b.toNat - 128]?.getD ' '

def decodeName (isUtf8 : Bool) (bs : Bytes) : String :=
  String.ofList (if isUtf8 then Text.decodeLossy bs else bs.map codePageChar)

end Tenancy.Zip
