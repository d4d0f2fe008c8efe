/-!
# Text/Utf8 — reading bytes as characters

`units` cuts any byte sequence into characters and ill-formed pieces; a piece is as long as the
beginning of some encoding that it is (a maximal subpart), and at least one byte. Strict reading
accepts no ill-formed piece, lossy reading shows each as U+FFFD.
-/

namespace Tenancy.Text

/-- The continuation bytes `80..BF`. -/
def isContinuation (b : UInt8) : Bool :=
  0x80 ≤ b && b ≤ 0xBF

/-- The low six bits, which a continuation byte carries. -/
def payload (b : UInt8) : Nat :=
  b.toNat % 64

/-- The range of the byte after a three-byte lead, without overlong forms and surrogates. -/
def secondOfThree (lead b : UInt8) : Bool :=
  if lead == 0xE0 then 0xA0 ≤ b && b ≤ 0xBF
  else if lead == 0xED then 0x80 ≤ b && b ≤ 0x9F
  else isContinuation b

/-- The range of the byte after a four-byte lead, without overlong forms and values past 10FFFF. -/
def secondOfFour (lead b : UInt8) : Bool :=
  if lead == 0xF0 then 0x90 ≤ b && b ≤ 0xBF
  else if lead == 0xF4 then 0x80 ≤ b && b ≤ 0x8F
  else isContinuation b

/-- The first character of `lead :: bs`, or `none` for an ill-formed piece, and the bytes after
it. -/
def nextUnit (lead : UInt8) (bs : List UInt8) : Option Char × List UInt8 :=
  if lead < 0x80 then (some (Char.ofNat lead.toNat), bs)
  else if 0xC2 ≤ lead && lead ≤ 0xDF then
    match bs with
    | b :: r =>
      if isContinuation b then (some (Char.ofNat ((lead.toNat % 32) * 64 + payload b)), r)
      else (none, bs)
    | [] => (none, [])
  else if 0xE0 ≤ lead && lead ≤ 0xEF then
    match bs with
    | b :: c :: r =>
      if secondOfThree lead b then
        if isContinuation c then
          (some (Char.ofNat (((lead.toNat % 16) * 64 + payload b) * 64 + payload c)), r)
        else (none, c :: r)
      else (none, bs)
    | [b] => if secondOfThree lead b then (none, []) else (none, bs)
    | [] => (none, [])
  else if 0xF0 ≤ lead && lead ≤ 0xF4 then
    match bs with
    | b :: c :: d :: r =>
      if secondOfFour lead b then
        if isContinuation c then
          if isContinuation d then
            (some (Char.ofNat
              ((((lead.toNat % 8) * 64 + payload b) * 64 + payload c) * 64 + payload d)), r)
          else (none, d :: r)
        else (none, c :: d :: r)
      else (none, bs)
    | [b, c] =>
      if secondOfFour lead b then
        if isContinuation c then (none, []) else (none, [c])
      else (none, bs)
    | [b] => if secondOfFour lead b then (none, []) else (none, bs)
    | [] => (none, [])
  else (none, bs)

theorem length_nextUnit (lead : UInt8) (bs : List UInt8) :
    (nextUnit lead bs).2.length ≤ bs.length := by
  unfold nextUnit
  repeat' split
  all_goals simp
  all_goals omega

/-- The characters of a byte sequence, `none` standing for each ill-formed piece. -/
def units : List UInt8 → List (Option Char)
  | [] => []
  | b :: bs => (nextUnit b bs).1 :: units (nextUnit b bs).2
termination_by bs => bs.length
decreasing_by
  have := length_nextUnit b bs
  simp only [List.length_cons]
  omega

/-- Every ill-formed piece is shown as U+FFFD. -/
def decodeLossy (bs : List UInt8) : List Char :=
  (units bs).map (·.getD '\uFFFD')

/-- The text that the bytes encode, if they are well formed. -/
def decode? (bs : List UInt8) : Option (List Char) :=
  (units bs).mapM id

/-- The UTF-8 bytes of a text. -/
def encode (cs : List Char) : List UInt8 :=
  cs.flatMap String.utf8EncodeChar

end Tenancy.Text

namespace Tenancy

/-- The UTF-8 bytes of a string. -/
def utf8 (s : String) : List UInt8 :=
  Text.encode s.toList

end Tenancy
