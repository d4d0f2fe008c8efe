import Mathlib.Tactic.SplitIfs
import Tenancy.Text.Utf8

/-!
# Proofs/Text/Utf8 — encoded text reads back

    decode (encode text)  =  text

A character is read off the front of its encoding, whatever comes after it
(`Text.nextUnit_append`).  A character below 80 is its own byte, and the bytes of any other are all
above 7F, so that no byte of it is taken for one of the former.  A byte below 80 is therefore read
as itself wherever it stands, also after bytes that encode nothing (`Text.units_append_ascii`).
-/

namespace Tenancy.Text

theorem toNat_ofNat {n : Nat} (h : n < 256) : (UInt8.ofNat n).toNat = n :=
  UInt8.toNat_ofNat_of_lt' h

/-! ## Continuation bytes -/

theorem toNat_continuation (n : Nat) : (UInt8.ofNat (n % 64 + 128)).toNat = n % 64 + 128 :=
  toNat_ofNat (by omega)

theorem isContinuation_ofNat (n : Nat) : isContinuation (UInt8.ofNat (n % 64 + 128)) = true := by
  simp only [isContinuation, Bool.and_eq_true, decide_eq_true_eq, UInt8.le_iff_toNat_le,
    toNat_continuation, UInt8.reduceToNat]
  omega

theorem payload_ofNat (n : Nat) : payload (UInt8.ofNat (n % 64 + 128)) = n % 64 := by
  rw [payload, toNat_continuation]
  omega

/-! ## Characters by the number of their bytes -/

theorem nextUnit_one {n : Nat} (h : n < 128) (rest : List UInt8) :
    nextUnit (UInt8.ofNat n) rest = (some (Char.ofNat n), rest) := by
  have hlead : (UInt8.ofNat n).toNat = n := toNat_ofNat (by omega)
  unfold nextUnit
  rw [if_pos (UInt8.lt_iff_toNat_lt.2 (by rw [hlead]; exact h)), hlead]

theorem nextUnit_two {n : Nat} (hlow : 0x80 ≤ n) (hhigh : n < 0x800) (rest : List UInt8) :
    nextUnit (UInt8.ofNat (n / 64 % 32 + 192)) (UInt8.ofNat (n % 64 + 128) :: rest) =
      (some (Char.ofNat n), rest) := by
  have hlead : (UInt8.ofNat (n / 64 % 32 + 192)).toNat = n / 64 % 32 + 192 :=
    toNat_ofNat (by omega)
  have hvalue : (n / 64 % 32 + 192) % 32 * 64 + n % 64 = n := by omega
  simp only [nextUnit, isContinuation_ofNat, payload_ofNat, UInt8.lt_iff_toNat_lt,
    UInt8.le_iff_toNat_le, hlead, hvalue, UInt8.reduceToNat, Bool.and_eq_true, decide_eq_true_eq]
  rw [if_neg (by omega), if_pos (by omega), if_pos trivial]

theorem secondOfThree_ofNat {n : Nat} (hlow : 0x800 ≤ n) (hhigh : n < 0x10000)
    (hvalid : n < 0xD800 ∨ 0xDFFF < n) :
    secondOfThree (UInt8.ofNat (n / 4096 % 16 + 224)) (UInt8.ofNat (n / 64 % 64 + 128)) = true := by
  have hlead : (UInt8.ofNat (n / 4096 % 16 + 224)).toNat = n / 4096 % 16 + 224 :=
    toNat_ofNat (by omega)
  unfold secondOfThree
  simp only [beq_iff_eq, ← UInt8.toNat_inj, hlead, UInt8.reduceToNat, isContinuation_ofNat,
    UInt8.le_iff_toNat_le, toNat_continuation]
  split
  · simp only [Bool.and_eq_true, decide_eq_true_eq]
    omega
  · split
    · simp only [Bool.and_eq_true, decide_eq_true_eq]
      omega
    · rfl

theorem nextUnit_three {n : Nat} (hlow : 0x800 ≤ n) (hhigh : n < 0x10000)
    (hvalid : n < 0xD800 ∨ 0xDFFF < n) (rest : List UInt8) :
    nextUnit (UInt8.ofNat (n / 4096 % 16 + 224))
        (UInt8.ofNat (n / 64 % 64 + 128) :: UInt8.ofNat (n % 64 + 128) :: rest) =
      (some (Char.ofNat n), rest) := by
  have hlead : (UInt8.ofNat (n / 4096 % 16 + 224)).toNat = n / 4096 % 16 + 224 :=
    toNat_ofNat (by omega)
  have hvalue : ((n / 4096 % 16 + 224) % 16 * 64 + n / 64 % 64) * 64 + n % 64 = n := by omega
  simp only [nextUnit, secondOfThree_ofNat hlow hhigh hvalid, isContinuation_ofNat, payload_ofNat,
    UInt8.lt_iff_toNat_lt, UInt8.le_iff_toNat_le, hlead, hvalue, UInt8.reduceToNat,
    Bool.and_eq_true, decide_eq_true_eq]
  rw [if_neg (by omega), if_neg (by omega), if_pos (by omega), if_pos trivial,
    if_pos trivial]

theorem secondOfFour_ofNat {n : Nat} (hlow : 0x10000 ≤ n) (hhigh : n < 0x110000) :
    secondOfFour (UInt8.ofNat (n / 262144 % 8 + 240)) (UInt8.ofNat (n / 4096 % 64 + 128)) =
      true := by
  have hlead : (UInt8.ofNat (n / 262144 % 8 + 240)).toNat = n / 262144 % 8 + 240 :=
    toNat_ofNat (by omega)
  unfold secondOfFour
  simp only [beq_iff_eq, ← UInt8.toNat_inj, hlead, UInt8.reduceToNat, isContinuation_ofNat,
    UInt8.le_iff_toNat_le, toNat_continuation]
  split
  · simp only [Bool.and_eq_true, decide_eq_true_eq]
    omega
  · split
    · simp only [Bool.and_eq_true, decide_eq_true_eq]
      omega
    · rfl

theorem nextUnit_four {n : Nat} (hlow : 0x10000 ≤ n) (hhigh : n < 0x110000) (rest : List UInt8) :
    nextUnit (UInt8.ofNat (n / 262144 % 8 + 240))
        (UInt8.ofNat (n / 4096 % 64 + 128) :: UInt8.ofNat (n / 64 % 64 + 128) ::
          UInt8.ofNat (n % 64 + 128) :: rest) =
      (some (Char.ofNat n), rest) := by
  have hlead : (UInt8.ofNat (n / 262144 % 8 + 240)).toNat = n / 262144 % 8 + 240 :=
    toNat_ofNat (by omega)
  have hvalue : (((n / 262144 % 8 + 240) % 8 * 64 + n / 4096 % 64) * 64 + n / 64 % 64) * 64 +
      n % 64 = n := by omega
  simp only [nextUnit, secondOfFour_ofNat hlow hhigh, isContinuation_ofNat, payload_ofNat,
    UInt8.lt_iff_toNat_lt, UInt8.le_iff_toNat_le, hlead, hvalue, UInt8.reduceToNat,
    Bool.and_eq_true, decide_eq_true_eq]
  rw [if_neg (by omega), if_neg (by omega), if_neg (by omega), if_pos (by omega), if_pos trivial,
    if_pos trivial, if_pos trivial]

/-! ## All characters -/

/-- The bytes by the number of the character. -/
theorem utf8EncodeChar_eq (c : Char) :
    String.utf8EncodeChar c =
      if c.toNat < 0x80 then [UInt8.ofNat c.toNat]
      else if c.toNat < 0x800 then
        [UInt8.ofNat (c.toNat / 64 % 32 + 192), UInt8.ofNat (c.toNat % 64 + 128)]
      else if c.toNat < 0x10000 then
        [UInt8.ofNat (c.toNat / 4096 % 16 + 224), UInt8.ofNat (c.toNat / 64 % 64 + 128),
          UInt8.ofNat (c.toNat % 64 + 128)]
      else
        [UInt8.ofNat (c.toNat / 262144 % 8 + 240), UInt8.ofNat (c.toNat / 4096 % 64 + 128),
          UInt8.ofNat (c.toNat / 64 % 64 + 128), UInt8.ofNat (c.toNat % 64 + 128)] := by
  simp only [String.utf8EncodeChar, Char.toNat, ← Nat.lt_succ_iff]

/-- **A character is read off the front of its encoding.** -/
theorem nextUnit_append (c : Char) (rest : List UInt8) :
    ∃ b bs, String.utf8EncodeChar c = b :: bs ∧ nextUnit b (bs ++ rest) = (some c, rest) := by
  have hvalid : c.toNat < 0xD800 ∨ 0xDFFF < c.toNat ∧ c.toNat < 0x110000 := c.valid
  have hc : Char.ofNat c.toNat = c := Char.ofNat_toNat c
  rw [utf8EncodeChar_eq]
  generalize c.toNat = n at hvalid hc
  subst hc
  split
  · exact ⟨_, _, rfl, nextUnit_one (by omega) rest⟩
  · split
    · exact ⟨_, _, rfl, nextUnit_two (by omega) (by omega) rest⟩
    · split
      · exact ⟨_, _, rfl, nextUnit_three (by omega) (by omega) (by omega) rest⟩
      · exact ⟨_, _, rfl, nextUnit_four (by omega) (by omega) rest⟩

theorem units_append (c : Char) (rest : List UInt8) :
    units (String.utf8EncodeChar c ++ rest) = some c :: units rest := by
  obtain ⟨b, bs, hbytes, hunit⟩ := nextUnit_append c rest
  rw [hbytes, List.cons_append, units, hunit]

theorem units_encode_append (cs : List Char) (rest : List UInt8) :
    units (encode cs ++ rest) = cs.map some ++ units rest := by
  induction cs with
  | nil => rfl
  | cons c cs ih =>
    rw [encode, List.flatMap_cons, List.append_assoc, units_append]
    exact congrArg (some c :: ·) ih

theorem units_encode (cs : List Char) : units (encode cs) = cs.map some := by
  simpa [units] using units_encode_append cs []

/-- **Encoded text reads back.** -/
theorem decode?_encode (cs : List Char) : decode? (encode cs) = some cs := by
  rw [decode?, units_encode, List.mapM_map]
  exact List.mapM_pure.trans (congrArg some (List.map_id cs))

theorem decodeLossy_encode (cs : List Char) : decodeLossy (encode cs) = cs := by
  rw [decodeLossy, units_encode, List.map_map]
  exact List.map_id cs

/-! ## Which bytes there are -/

theorem encode_append (cs ds : List Char) : encode (cs ++ ds) = encode cs ++ encode ds :=
  List.flatMap_append

theorem utf8EncodeChar_ascii {c : Char} (h : c.toNat < 0x80) :
    String.utf8EncodeChar c = [UInt8.ofNat c.toNat] := by
  rw [utf8EncodeChar_eq, if_pos h]

theorem encode_ascii {cs : List Char} (h : ∀ c ∈ cs, c.toNat < 0x80) :
    encode cs = cs.map fun c => UInt8.ofNat c.toNat := by
  induction cs with
  | nil => rfl
  | cons c cs ih =>
    obtain ⟨hc, hcs⟩ := List.forall_mem_cons.1 h
    rw [encode, List.flatMap_cons, utf8EncodeChar_ascii hc, List.map_cons, ← ih hcs]
    rfl

/-- No byte of another character is one of those. -/
theorem le_of_mem_utf8EncodeChar {c : Char} (h : 0x80 ≤ c.toNat) {b : UInt8}
    (hb : b ∈ String.utf8EncodeChar c) : 0x80 ≤ b.toNat := by
  have hbyte : ∀ {n : Nat}, b = UInt8.ofNat n → 0x80 ≤ n → n < 256 → 0x80 ≤ b.toNat := by
    rintro n rfl hlow hhigh
    rwa [toNat_ofNat hhigh]
  rw [utf8EncodeChar_eq, if_neg (by omega)] at hb
  split at hb
  · simp only [List.mem_cons, List.not_mem_nil, or_false] at hb
    obtain hb | hb := hb <;> exact hbyte hb (by omega) (by omega)
  · split at hb
    · simp only [List.mem_cons, List.not_mem_nil, or_false] at hb
      obtain hb | hb | hb := hb <;> exact hbyte hb (by omega) (by omega)
    · simp only [List.mem_cons, List.not_mem_nil, or_false] at hb
      obtain hb | hb | hb | hb := hb <;> exact hbyte hb (by omega) (by omega)

/-! ## A byte below 80 stands alone -/

section Ascii

variable {x : UInt8}

theorem isContinuation_ascii (h : x < 0x80) : isContinuation x = false := by
  simp only [isContinuation, Bool.and_eq_false_iff, decide_eq_false_iff_not, UInt8.not_le]
  exact .inl h

theorem secondOfThree_ascii (h : x < 0x80) (lead : UInt8) : secondOfThree lead x = false := by
  have hlow : ¬ (0x80 : UInt8) ≤ x := UInt8.not_le.2 h
  have hmiddle : ¬ (0xA0 : UInt8) ≤ x := fun hle => hlow (UInt8.le_trans (by decide) hle)
  simp [secondOfThree, isContinuation_ascii h, hlow, hmiddle]

theorem secondOfFour_ascii (h : x < 0x80) (lead : UInt8) : secondOfFour lead x = false := by
  have hlow : ¬ (0x80 : UInt8) ≤ x := UInt8.not_le.2 h
  have hmiddle : ¬ (0x90 : UInt8) ≤ x := fun hle => hlow (UInt8.le_trans (by decide) hle)
  simp [secondOfFour, isContinuation_ascii h, hlow, hmiddle]

/-- It ends what is before it, be that a whole character or a piece of one. -/
theorem nextUnit_append_ascii (h : x < 0x80) (lead : UInt8) (bs rest : List UInt8) :
    nextUnit lead (bs ++ x :: rest) =
      ((nextUnit lead bs).1, (nextUnit lead bs).2 ++ x :: rest) := by
  have hcontinuation := isContinuation_ascii h
  have hthree := secondOfThree_ascii h lead
  have hfour := secondOfFour_ascii h lead
  unfold nextUnit
  -- the match goes as far as the unit may, and the byte below 80 may stand at each place
  split
  · rfl
  split
  · match bs with
    | [] => simp [hcontinuation]
    | b :: bs =>
      simp only [List.cons_append]
      split_ifs <;> rfl
  split
  · match bs, rest with
    | [], [] | [], _ :: _ => simp [hthree]
    | [b], rest =>
      simp only [List.cons_append, List.nil_append, hcontinuation, Bool.false_eq_true, if_false]
      split_ifs <;> rfl
    | b :: c :: bs, rest =>
      simp only [List.cons_append]
      split_ifs <;> rfl
  split
  · match bs, rest with
    | [], [] | [], [_] | [], _ :: _ :: _ => simp [hfour]
    | [b], [] | [b], _ :: _ | [b, c], rest =>
      simp only [List.cons_append, List.nil_append, hcontinuation, Bool.false_eq_true, if_false]
      split_ifs <;> rfl
    | b :: c :: d :: bs, rest =>
      simp only [List.cons_append]
      split_ifs <;> rfl
  · rfl

theorem units_append_ascii (h : x < 0x80) (a b : List UInt8) :
    units (a ++ x :: b) = units a ++ some (Char.ofNat x.toNat) :: units b := by
  induction a using units.induct with
  | case1 =>
    have hunit : nextUnit x b = (some (Char.ofNat x.toNat), b) := if_pos h
    rw [List.nil_append, units.eq_2, hunit, units.eq_1, List.nil_append]
  | case2 lead bs ih =>
    rw [List.cons_append, units.eq_2, nextUnit_append_ascii h, ih, units.eq_2, List.cons_append]

end Ascii

/-- **A byte below 80 parts what is read**, whole characters before it or not. -/
theorem decodeLossy_append_ascii {x : UInt8} (h : x < 0x80) (a b : List UInt8) :
    decodeLossy (a ++ x :: b) = decodeLossy a ++ Char.ofNat x.toNat :: decodeLossy b := by
  rw [decodeLossy, units_append_ascii h, List.map_append, List.map_cons]
  rfl

end Tenancy.Text

namespace Tenancy

theorem utf8_append (s t : String) : utf8 (s ++ t) = utf8 s ++ utf8 t := by
  rw [utf8, String.toList_append, Text.encode_append]
  rfl

theorem utf8_ofList (cs : List Char) : utf8 (String.ofList cs) = Text.encode cs := by
  rw [utf8, String.toList_ofList]

end Tenancy
