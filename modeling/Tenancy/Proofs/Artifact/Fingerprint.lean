import Tenancy.Artifact.Fingerprint
import Tenancy.Proofs.Table

/-!
# Proofs/Artifact/Fingerprint — what the digest is taken of can be read back

The byte string has neither a count of the entries nor an end, and its order is not preceded by a
length.  Nevertheless it is read from the front in one way only: the orders differ in their first
byte, and each entry says how long it is (`Fingerprint.entryBytes_append_inj`).  So different maps
and orders have different byte strings (`Fingerprint.encoding_inj`), as long as lengths fit into
eight bytes, and digests that do not collide are those of equal ones alone
(`Fingerprint.fingerprint_eq_iff`).
-/

namespace Tenancy

namespace Bytes

theorem littleEndian_inj {width n n' : Nat} (hn : n < Nat.pow 256 width)
    (hn' : n' < Nat.pow 256 width) (h : littleEndian width n = littleEndian width n') : n = n' := by
  rw [← ofLittleEndian_littleEndian width n hn, h, ofLittleEndian_littleEndian width n' hn']

theorem bigEndian_inj {width n n' : Nat} (hn : n < Nat.pow 256 width)
    (hn' : n' < Nat.pow 256 width) (h : bigEndian width n = bigEndian width n') : n = n' :=
  littleEndian_inj hn hn' (List.reverse_injective h)

end Bytes

theorem utf8_injective : Function.Injective utf8 := by
  intro s t h
  have hencoded : s.toList.utf8Encode = t.toList.utf8Encode := congrArg List.toByteArray h
  rw [← String.toByteArray_ofList, ← String.toByteArray_ofList, String.toByteArray_inj,
    String.ofList_toList, String.ofList_toList] at hencoded
  exact hencoded

namespace Fingerprint

/-! ## One entry -/

/-- The lengths fit into eight bytes, as those of whatever is in memory do. -/
structure Short (p : ArtifactKey × Entry) : Prop where
  id : (utf8 p.1.id).length < Nat.pow 256 8
  plainLength : p.2.plainLength < Nat.pow 256 8
  payload : p.2.payload.length < Nat.pow 256 8

instance (p : ArtifactKey × Entry) : Decidable (Short p) :=
  decidable_of_iff ((utf8 p.1.id).length < Nat.pow 256 8 ∧ p.2.plainLength < Nat.pow 256 8 ∧
    p.2.payload.length < Nat.pow 256 8)
    ⟨fun h => ⟨h.1, h.2.1, h.2.2⟩, fun h => ⟨h.id, h.plainLength, h.payload⟩⟩

/-- Lengths fit, and the entry has the key that it is stored under. -/
structure Fits (p : ArtifactKey × Entry) : Prop extends Short p where
  own : p.2.key = p.1

instance (p : ArtifactKey × Entry) : Decidable (Fits p) :=
  decidable_of_iff (Short p ∧ p.2.key = p.1) ⟨fun h => ⟨h.1, h.2⟩, fun h => ⟨h.toShort, h.own⟩⟩

theorem kindTag_injective : Function.Injective kindTag := by
  intro k k' h
  cases k <;> cases k' <;> first | rfl | exact absurd h (by decide)

/-- A length is read off the front. -/
theorem lengthBytes_append_inj {n n' : Nat} {rest rest' : Bytes} (hn : n < Nat.pow 256 8)
    (hn' : n' < Nat.pow 256 8) (h : lengthBytes n ++ rest = lengthBytes n' ++ rest') :
    n = n' ∧ rest = rest' := by
  have hwidth : (lengthBytes n).length = (lengthBytes n').length := by simp [lengthBytes]
  obtain ⟨hbytes, hrest⟩ := List.append_inj h hwidth
  exact ⟨Bytes.bigEndian_inj hn hn' hbytes, hrest⟩

/-- **An entry is read off the front**, whatever comes after it. -/
theorem entryBytes_append_inj {p p' : ArtifactKey × Entry} {rest rest' : Bytes} (hp : Fits p)
    (hp' : Fits p') (h : entryBytes p ++ rest = entryBytes p' ++ rest') :
    p = p' ∧ rest = rest' := by
  obtain ⟨⟨kind, id⟩, key, payload, plainLength⟩ := p
  obtain ⟨⟨kind', id'⟩, key', payload', plainLength'⟩ := p'
  obtain rfl : key = ⟨kind, id⟩ := hp.own
  obtain rfl : key' = ⟨kind', id'⟩ := hp'.own
  simp only [entryBytes, List.cons_append, List.append_assoc, List.cons.injEq] at h
  obtain ⟨hkind, h⟩ := h
  obtain ⟨hidLength, h⟩ := lengthBytes_append_inj hp.id hp'.id h
  obtain ⟨hid, h⟩ := List.append_inj h hidLength
  obtain ⟨hplainLength, h⟩ := lengthBytes_append_inj hp.plainLength hp'.plainLength h
  obtain ⟨hpayloadLength, h⟩ := lengthBytes_append_inj hp.payload hp'.payload h
  obtain ⟨hpayload, hrest⟩ := List.append_inj h hpayloadLength
  obtain rfl := kindTag_injective hkind
  obtain rfl := utf8_injective hid
  obtain rfl : plainLength = plainLength' := hplainLength
  obtain rfl : payload = payload' := hpayload
  exact ⟨rfl, hrest⟩

/-! ## All entries -/

theorem flatMap_entryBytes_inj {ps ps' : List (ArtifactKey × Entry)} (hps : ∀ p ∈ ps, Fits p)
    (hps' : ∀ p ∈ ps', Fits p) (h : ps.flatMap entryBytes = ps'.flatMap entryBytes) :
    ps = ps' := by
  induction ps generalizing ps' with
  | nil =>
    cases ps' with
    | nil => rfl
    | cons p' ps' => cases h
  | cons p ps ih =>
    cases ps' with
    | nil => cases h
    | cons p' ps' =>
      obtain ⟨hp, hothers⟩ := List.forall_mem_cons.1 hps
      obtain ⟨hp', hothers'⟩ := List.forall_mem_cons.1 hps'
      obtain ⟨hfirst, hrest⟩ := entryBytes_append_inj hp hp' h
      rw [hfirst, ih hothers hothers' hrest]

theorem head_orderTag (order : ResolutionOrder) (rest : Bytes) :
    (orderTag order ++ rest).head? = some (if order = .childFirst then 99 else 112) := by
  cases order <;> rfl

theorem orderTag_append_inj {order order' : ResolutionOrder} {rest rest' : Bytes}
    (h : orderTag order ++ rest = orderTag order' ++ rest') : order = order' ∧ rest = rest' := by
  have horder : order = order' := by
    have hhead := congrArg List.head? h
    rw [head_orderTag, head_orderTag] at hhead
    cases order <;> cases order' <;> first | rfl | exact absurd hhead (by decide)
  subst horder
  exact ⟨rfl, List.append_cancel_left h⟩

/-- **Different maps and orders have different byte strings.** -/
theorem encoding_inj {m m' : ArtifactMap} {order order' : ResolutionOrder}
    (hm : ∀ p ∈ m.pairs, Fits p) (hm' : ∀ p ∈ m'.pairs, Fits p)
    (h : encoding m order = encoding m' order') : m = m' ∧ order = order' := by
  obtain ⟨horder, hbytes⟩ := orderTag_append_inj h
  have hpairs := flatMap_entryBytes_inj hm hm' hbytes
  exact ⟨Table.eq_of_perm (hpairs ▸ .refl _), horder⟩

/-! ## Digests -/

/-- **The digest tells these maps apart**, resolved in this order: lengths fit, and the two byte
strings do not collide. -/
structure Discerns (m m' : ArtifactMap) (order : ResolutionOrder) : Prop where
  short : ∀ p ∈ m.pairs, Short p
  short' : ∀ p ∈ m'.pairs, Short p
  apart : fingerprint m order = fingerprint m' order → encoding m order = encoding m' order

instance (m m' : ArtifactMap) (order : ResolutionOrder) : Decidable (Discerns m m' order) :=
  decidable_of_iff ((∀ p ∈ m.pairs, Short p) ∧ (∀ p ∈ m'.pairs, Short p) ∧
    (fingerprint m order = fingerprint m' order → encoding m order = encoding m' order))
    ⟨fun h => ⟨h.1, h.2.1, h.2.2⟩, fun h => ⟨h.short, h.short', h.apart⟩⟩

theorem Discerns.eq {m m' : ArtifactMap} {order : ResolutionOrder} (h : Discerns m m' order)
    (hm : ∀ p ∈ m.pairs, p.2.key = p.1) (hm' : ∀ p ∈ m'.pairs, p.2.key = p.1)
    (hd : fingerprint m order = fingerprint m' order) : m = m' :=
  (encoding_inj (fun p hp => ⟨h.short p hp, hm p hp⟩) (fun p hp => ⟨h.short' p hp, hm' p hp⟩)
    (h.apart hd)).1

/-- **Byte strings are equal if and only if orders and maps are**, and so are digests that do not
collide.  The order in which entries were put into a map has no part in it. -/
theorem fingerprint_eq_iff {m m' : ArtifactMap} (hm : ∀ p ∈ m.pairs, Fits p)
    (hm' : ∀ p ∈ m'.pairs, Fits p) (order order' : ResolutionOrder) :
    (encoding m order = encoding m' order' ↔ order = order' ∧ m = m') ∧
    ((fingerprint m order = fingerprint m' order' → encoding m order = encoding m' order') →
      (fingerprint m order = fingerprint m' order' ↔ order = order' ∧ m = m')) ∧
    ∀ l l' : List (ArtifactKey × Entry), l.Perm l' → (l.map Prod.fst).Nodup →
      fingerprint (.ofList l) order = fingerprint (.ofList l') order := by
  have hback : encoding m order = encoding m' order' → order = order' ∧ m = m' := fun h =>
    (encoding_inj hm hm' h).symm
  refine ⟨⟨hback, ?_⟩, fun hapart => ⟨hback ∘ hapart, ?_⟩, fun l l' hl hkeys => ?_⟩
  · rintro ⟨rfl, rfl⟩
    rfl
  · rintro ⟨rfl, rfl⟩
    rfl
  · rw [Table.ofList_eq_of_perm hl hkeys]

/-- A unit and its content as it is written for the digest. -/
def nested : ArtifactKey × Entry :=
  (.code "b", ⟨.code "b", [7], 1⟩)

/-- A payload that imitates a second entry is not taken for one. -/
theorem fingerprint_eq_iff_nested :
    let m : ArtifactMap := .ofList [(.code "a", ⟨.code "a", entryBytes nested, 0⟩)]
    let m' : ArtifactMap := .ofList [(.code "a", ⟨.code "a", [], 0⟩), nested]
    fingerprint m .childFirst ≠ fingerprint m' .childFirst := by
  intro m m' h
  have hm : ∀ p ∈ m.pairs, Fits p := by decide +kernel
  have hm' : ∀ p ∈ m'.pairs, Fits p := by decide +kernel
  have hapart : fingerprint m .childFirst = fingerprint m' .childFirst →
      encoding m .childFirst = encoding m' .childFirst := by decide +kernel
  obtain ⟨-, hdigests, -⟩ := fingerprint_eq_iff hm hm' .childFirst .childFirst
  have hsize : m.size = m'.size := congrArg Table.size ((hdigests hapart).1 h).2
  exact absurd hsize (by decide)

end Fingerprint

end Tenancy
