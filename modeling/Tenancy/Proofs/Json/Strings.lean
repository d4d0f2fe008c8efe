import Tenancy.Json.Parser
import Tenancy.Proofs.Text.Utf8

/-!
# Proofs/Json/Strings — a quoted text reads back

    textOf (pieces (quote text))  =  text

A character is written as itself or as one of two kinds of escape; whichever it is, it is read as
pieces that make up its bytes (`spells_escapeChar`).  What is written has no control characters.
-/

namespace Tenancy.Json

open Text (encode)

/-- The bytes are read as pieces that make up the character, whatever comes after them. -/
def Spells (bs : Bytes) (c : Char) : Prop :=
  ∃ ps : List Piece,
    (∀ rest, pieces (bs ++ rest) = (pieces rest).map fun r => (ps ++ r.1, r.2)) ∧
      ∀ qs, assemble (ps ++ qs) = (assemble qs).map (String.utf8EncodeChar c ++ ·)

/-! ## Bytes that stand for themselves -/

def IsLiteral (b : UInt8) : Prop :=
  32 ≤ b.toNat ∧ b ≠ 34 ∧ b ≠ 92

theorem pieces_cons {b : UInt8} (h : IsLiteral b) (rest : Bytes) :
    pieces (b :: rest) = (pieces rest).map fun r => (.byte b :: r.1, r.2) := by
  obtain ⟨hlow, hquote, hslash⟩ := h
  have hnot : (b < 32 || b == 92) = false := by
    simp only [Bool.or_eq_false_iff, decide_eq_false_iff_not, UInt8.lt_iff_toNat_lt,
      beq_eq_false_iff_ne]
    exact ⟨Nat.not_lt.2 hlow, hslash⟩
  rw [pieces, hnot]
  · rfl
  · exact hquote
  · rintro _ _ _ _ _ rfl
    exact absurd rfl hslash
  · rintro _ _ rfl
    exact absurd rfl hslash

theorem pieces_append {bs : Bytes} (h : ∀ b ∈ bs, IsLiteral b) (rest : Bytes) :
    pieces (bs ++ rest) = (pieces rest).map fun r => (bs.map .byte ++ r.1, r.2) := by
  induction bs with
  | nil => simp
  | cons b bs ih =>
    obtain ⟨hb, hbs⟩ := List.forall_mem_cons.1 h
    rw [List.cons_append, pieces_cons hb, ih hbs, Option.map_map]
    rfl

theorem assemble_append (bs : Bytes) (ps : List Piece) :
    assemble (bs.map .byte ++ ps) = (assemble ps).map (bs ++ ·) := by
  induction bs with
  | nil => simp
  | cons b bs ih =>
    rw [List.map_cons, List.cons_append, assemble, ih, Option.map_map]
    rfl

theorem ofNat_toNat_ne {c d : Char} (hc : c.toNat < 0x80) (hd : d.toNat < 0x80) (h : c ≠ d) :
    UInt8.ofNat c.toNat ≠ UInt8.ofNat d.toNat := by
  intro heq
  have hnat := congrArg UInt8.toNat heq
  rw [Text.toNat_ofNat (by omega), Text.toNat_ofNat (by omega)] at hnat
  exact h (Char.toNat_inj.1 hnat)

theorem spells_self {c : Char} (h : 32 ≤ c.toNat) (hquote : c ≠ '"') (hslash : c ≠ '\\') :
    Spells (String.utf8EncodeChar c) c := by
  refine ⟨_, pieces_append fun b hb => ?_, assemble_append _⟩
  by_cases hascii : c.toNat < 0x80
  · rw [Text.utf8EncodeChar_ascii hascii, List.mem_singleton] at hb
    subst hb
    refine ⟨?_, ofNat_toNat_ne (d := '"') hascii (by decide) hquote,
      ofNat_toNat_ne (d := '\\') hascii (by decide) hslash⟩
    rwa [Text.toNat_ofNat (by omega)]
  · have hhigh : 0x80 ≤ b.toNat := Text.le_of_mem_utf8EncodeChar (Nat.not_lt.1 hascii) hb
    refine ⟨by omega, ?_, ?_⟩
    · rintro rfl
      exact absurd hhigh (by decide)
    · rintro rfl
      exact absurd hhigh (by decide)

/-! ## Escapes -/

theorem spells_letter {e : UInt8} {n : Nat} {c : Char} (hc : c.toNat = n)
    (he : n < 0x80 ∧ e ≠ 117 ∧ escaped? e = some (UInt8.ofNat n)) : Spells [92, e] c := by
  obtain ⟨hn, hu, hvalue⟩ := he
  subst hc
  refine ⟨[.byte (UInt8.ofNat c.toNat)], fun rest => ?_, fun qs => ?_⟩
  · rw [List.cons_append, List.cons_append, pieces, hvalue]
    · rfl
    · rintro _ _ _ _ _ rfl
      exact absurd rfl hu
  · rw [Text.utf8EncodeChar_ascii hn]
    rfl

theorem hexValue?_hexDigit :
    ∀ n < 16, hexValue? (UInt8.ofNat (hexDigit n).toNat) = some n := by
  decide

theorem encode_unit {a b : Nat} (ha : a < 16) (hb : b < 16) :
    encode ['\\', 'u', '0', '0', hexDigit a, hexDigit b] =
      [92, 117, 48, 48, UInt8.ofNat (hexDigit a).toNat, UInt8.ofNat (hexDigit b).toNat] := by
  have hdigit : ∀ n < 16, (hexDigit n).toNat < 0x80 := by decide
  rw [Text.encode_ascii (by simp [hdigit a ha, hdigit b hb])]
  rfl

theorem spells_unit {c : Char} (h : c.toNat < 32) :
    Spells [92, 117, 48, 48, UInt8.ofNat (hexDigit (c.toNat / 16)).toNat,
      UInt8.ofNat (hexDigit (c.toNat % 16)).toNat] c := by
  refine ⟨[.unit c.toNat], fun rest => ?_, fun qs => ?_⟩
  · have hzero : hexValue? 48 = some 0 := by decide
    have hunit : ((0 * 16 + 0) * 16 + c.toNat / 16) * 16 + c.toNat % 16 = c.toNat := by omega
    simp only [List.cons_append, List.nil_append, pieces, hzero,
      hexValue?_hexDigit (c.toNat / 16) (by omega), hexValue?_hexDigit (c.toNat % 16) (by omega),
      hunit]
  · have hlow : (c.toNat < 0xD800 || 0xDFFF < c.toNat) = true := by
      simp only [Bool.or_eq_true, decide_eq_true_eq]
      omega
    rw [List.singleton_append, assemble.eq_def]
    dsimp only
    rw [if_pos hlow, Char.ofNat_toNat]

/-- **A character is read back from its escape.** -/
theorem spells_escapeChar (c : Char) : Spells (encode (escapeChar c)) c := by
  unfold escapeChar
  split
  · next h => exact spells_letter (e := 34) (congrArg Char.toNat (eq_of_beq h)) (by decide)
  split
  · next h => exact spells_letter (e := 92) (congrArg Char.toNat (eq_of_beq h)) (by decide)
  split
  · next h => exact spells_letter (e := 98) (eq_of_beq h) (by decide)
  split
  · next h => exact spells_letter (e := 116) (eq_of_beq h) (by decide)
  split
  · next h => exact spells_letter (e := 110) (eq_of_beq h) (by decide)
  split
  · next h => exact spells_letter (e := 102) (eq_of_beq h) (by decide)
  split
  · next h => exact spells_letter (e := 114) (eq_of_beq h) (by decide)
  split
  · next h =>
    rw [encode_unit (by omega) (by omega)]
    exact spells_unit h
  · next hquote hslash _ _ _ _ _ h =>
    rw [encode, List.flatMap_singleton]
    exact spells_self (Nat.not_lt.1 h) (fun hc => hquote (beq_iff_eq.2 hc))
      fun hc => hslash (beq_iff_eq.2 hc)

/-- The pieces between the quotation marks make up the text. -/
theorem pieces_escaped (cs : List Char) :
    ∃ ps, assemble ps = some (encode cs) ∧
      ∀ rest, pieces (encode (cs.flatMap escapeChar) ++ 34 :: rest) = some (ps, rest) := by
  induction cs with
  | nil => exact ⟨[], rfl, fun _ => rfl⟩
  | cons c cs ih =>
    obtain ⟨ps, hread, hmake⟩ := spells_escapeChar c
    obtain ⟨qs, hmakes, hreads⟩ := ih
    refine ⟨ps ++ qs, ?_, fun rest => ?_⟩
    · rw [hmake, hmakes]
      rfl
    · rw [List.flatMap_cons, Text.encode_append, List.append_assoc, hread, hreads]
      rfl

theorem utf8_quote (s : String) :
    utf8 (quote s) = 34 :: (encode (s.toList.flatMap escapeChar) ++ [34]) := by
  rw [quote, utf8_ofList, quoteChars, ← List.singleton_append, Text.encode_append,
    Text.encode_append]
  rfl

/-- **A quoted text reads back.** -/
theorem pieces_quote (s : String) :
    ∃ ps bs, utf8 (quote s) = 34 :: bs ∧ textOf ps = some s ∧
      ∀ rest, pieces (bs ++ rest) = some (ps, rest) := by
  obtain ⟨ps, hmake, hread⟩ := pieces_escaped s.toList
  refine ⟨ps, _, utf8_quote s, ?_, fun rest => ?_⟩
  · rw [textOf, hmake]
    simp [Text.decode?_encode]
  · rw [List.append_assoc]
    exact hread rest

/-! ## Quoted texts have no control characters -/

def IsPrintable (bs : Bytes) : Prop :=
  ∀ b ∈ bs, 32 ≤ b.toNat

instance (bs : Bytes) : Decidable (IsPrintable bs) :=
  decidable_of_iff (bs.all (32 ≤ ·.toNat) = true) (by simp [IsPrintable])

theorem IsPrintable.nil : IsPrintable [] :=
  List.forall_mem_nil _

theorem IsPrintable.cons {b : UInt8} {bs : Bytes} (hb : 32 ≤ b.toNat) (hbs : IsPrintable bs) :
    IsPrintable (b :: bs) :=
  List.forall_mem_cons.2 ⟨hb, hbs⟩

theorem IsPrintable.append {bs cs : Bytes} (hbs : IsPrintable bs) (hcs : IsPrintable cs) :
    IsPrintable (bs ++ cs) :=
  List.forall_mem_append.2 ⟨hbs, hcs⟩

theorem IsPrintable.ne_feed {bs : Bytes} (h : IsPrintable bs) : ∀ b ∈ bs, b ≠ 10 := by
  rintro b hb rfl
  exact absurd (h 10 hb) (by decide)

theorem isPrintable_utf8EncodeChar {c : Char} (h : 32 ≤ c.toNat) :
    IsPrintable (String.utf8EncodeChar c) := by
  by_cases hascii : c.toNat < 0x80
  · rw [Text.utf8EncodeChar_ascii hascii]
    refine .cons ?_ .nil
    rwa [Text.toNat_ofNat (by omega)]
  · intro b hb
    have hhigh := Text.le_of_mem_utf8EncodeChar (Nat.not_lt.1 hascii) hb
    omega

theorem isPrintable_escapeChar (c : Char) : IsPrintable (encode (escapeChar c)) := by
  unfold escapeChar
  iterate 7
    split
    · decide
  split
  · next h =>
    have hdigit : ∀ n < 16, 32 ≤ (UInt8.ofNat (hexDigit n).toNat).toNat := by decide
    have hfirst := hdigit (c.toNat / 16) (by omega)
    have hsecond := hdigit (c.toNat % 16) (by omega)
    rw [encode_unit (by omega) (by omega)]
    exact IsPrintable.append (show IsPrintable [92, 117, 48, 48] by decide)
      (.cons hfirst (.cons hsecond .nil))
  · next h =>
    rw [encode, List.flatMap_singleton]
    exact isPrintable_utf8EncodeChar (Nat.not_lt.1 h)

theorem isPrintable_escaped (cs : List Char) :
    IsPrintable (encode (cs.flatMap escapeChar)) := by
  induction cs with
  | nil => exact .nil
  | cons c cs ih =>
    rw [List.flatMap_cons, Text.encode_append]
    exact (isPrintable_escapeChar c).append ih

theorem isPrintable_quote (s : String) : IsPrintable (utf8 (quote s)) := by
  rw [utf8_quote]
  exact .cons (by decide) ((isPrintable_escaped s.toList).append (.cons (by decide) .nil))

end Tenancy.Json
