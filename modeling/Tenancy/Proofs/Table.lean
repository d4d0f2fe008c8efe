import Mathlib.Data.List.Nodup
import Tenancy.Table

/-!
# Proofs/Table — tables are what they answer

Two tables that answer every key alike are equal (`Table.ext_get?`), so a law about tables is a law
about `get?`.  Inserting and erasing, seen on the pairs themselves, puts one pair in and takes one
out (`Table.perm_insert`, `Table.perm_erase`).  Seen on the pairs, a union of tables that share no
key puts them side by side (`Table.perm_flatMap_iff`).
-/

namespace Tenancy.Table

variable {κ β γ : Type} [LinearKey κ]

/-! ## Extensionality -/

theorem ne_of_lt {a b : κ} (h : a < b) : a ≠ b := by
  rintro rfl
  exact LinearKey.irrefl a h

theorem nodup_pairs (t : Table κ β) : t.pairs.Nodup :=
  t.sorted.imp fun h he => ne_of_lt h (congrArg Prod.fst he)

/-- Tables with the same pairs are equal, since the order is theirs. -/
theorem eq_of_perm {t u : Table κ β} (h : t.pairs.Perm u.pairs) : t = u := by
  have hpairs : t.pairs = u.pairs :=
    h.eq_of_pairwise (fun a b _ _ hab hba => absurd (LinearKey.trans hab hba)
      (LinearKey.irrefl a.1)) t.sorted u.sorted
  obtain ⟨l, hl⟩ := t
  obtain ⟨l', hl'⟩ := u
  obtain rfl : l = l' := hpairs
  rfl

theorem ext_get? {t u : Table κ β} (h : ∀ k, t.get? k = u.get? k) : t = u := by
  have hmem : ∀ p, p ∈ t.pairs ↔ p ∈ u.pairs := fun p => by
    rw [← get?_eq_some_iff, ← get?_eq_some_iff, h]
  exact eq_of_perm ((List.perm_ext_iff_of_nodup t.nodup_pairs u.nodup_pairs).2 hmem)

theorem get?_insert (t : Table κ β) (k k' : κ) (v : β) :
    (t.insert k v).get? k' = if k' = k then some v else t.get? k' := by
  split
  · rename_i h; subst h; exact get?_insert_self t _ v
  · rename_i h; exact get?_insert_ne t v h

theorem get?_erase (t : Table κ β) (k k' : κ) :
    (t.erase k).get? k' = if k' = k then none else t.get? k' := by
  split
  · rename_i h; subst h; exact get?_erase_self t _
  · rename_i h; exact get?_erase_ne t h

theorem erase_eq_self {t : Table κ β} {k : κ} (h : t.get? k = none) : t.erase k = t := by
  refine ext_get? fun k' => ?_
  rw [get?_erase]
  split
  · rename_i hk; rw [hk, h]
  · rfl

theorem insert_eq_self {t : Table κ β} {k : κ} {v : β} (h : t.get? k = some v) :
    t.insert k v = t := by
  refine ext_get? fun k' => ?_
  rw [get?_insert]
  split
  · rename_i hk; rw [hk, h]
  · rfl

/-! ## The pairs after an insertion -/

theorem insertPair_perm (k : κ) (v : β) {l : List (κ × β)}
    (h : l.Pairwise fun a b => a.1 < b.1) :
    (insertPair k v l).Perm ((k, v) :: l.filter fun p => !decide (p.1 = k)) := by
  induction l with
  | nil => exact .refl _
  | cons q l ih =>
    obtain ⟨k', v'⟩ := q
    obtain ⟨hq, hl⟩ := List.pairwise_cons.1 h
    simp only [insertPair]
    split
    · rename_i hk
      -- every key of the list is beyond `k`, so nothing is filtered out
      have hne : ∀ p ∈ (k', v') :: l, (!decide (p.1 = k)) = true := fun p hp => by
        rcases List.mem_cons.1 hp with rfl | hp
        · simp [(ne_of_lt hk).symm]
        · simp [(ne_of_lt (LinearKey.trans hk (hq p hp))).symm]
      rw [List.filter_eq_self.2 hne]
    · split
      · rename_i _ hk
        subst hk
        have hne : ∀ p ∈ l, (!decide (p.1 = k)) = true := fun p hp => by
          simp [(ne_of_lt (hq p hp)).symm]
        rw [List.filter_cons_of_neg (by simp), List.filter_eq_self.2 hne]
      · rename_i _ hk
        rw [List.filter_cons_of_pos (by simp [Ne.symm hk])]
        exact ((ih hl).cons _).trans (.swap _ _ _)

theorem perm_insert (t : Table κ β) (k : κ) (v : β) :
    (t.insert k v).pairs.Perm ((k, v) :: (t.erase k).pairs) :=
  insertPair_perm k v t.sorted

theorem perm_erase {t : Table κ β} {k : κ} {v : β} (h : t.get? k = some v) :
    t.pairs.Perm ((k, v) :: (t.erase k).pairs) := by
  have hp := t.perm_insert k v
  rwa [insert_eq_self h] at hp

/-! ## Values -/

theorem mem_values_iff (t : Table κ β) (v : β) : v ∈ t.values ↔ ∃ k, t.get? k = some v := by
  simp only [values, List.mem_map, Prod.exists, exists_eq_right, get?_eq_some_iff]

theorem values_insert (t : Table κ β) (k : κ) (v : β) :
    (t.insert k v).values.Perm (v :: (t.erase k).values) :=
  (t.perm_insert k v).map _

theorem values_erase (t : Table κ β) (k : κ) :
    t.values.Perm ((t.get? k).toList ++ (t.erase k).values) := by
  cases h : t.get? k with
  | none => rw [erase_eq_self h]; exact .refl _
  | some v => exact (perm_erase h).map _

/-- The table with every value replaced. -/
def map (f : β → γ) (t : Table κ β) : Table κ γ :=
  ⟨t.pairs.map fun p => (p.1, f p.2), List.pairwise_map.2 t.sorted⟩

theorem get?_map (f : β → γ) (t : Table κ β) (k : κ) : (t.map f).get? k = (t.get? k).map f := by
  simp only [get?, map, List.find?_map, Option.map_map]
  rfl

@[simp] theorem size_map (f : β → γ) (t : Table κ β) : (t.map f).size = t.size := by
  simp [size, map]

theorem contains_map (f : β → γ) (t : Table κ β) (k : κ) :
    (t.map f).contains k = t.contains k := by
  simp [contains, get?_map]

theorem map_insert (f : β → γ) (t : Table κ β) (k : κ) (v : β) :
    (t.insert k v).map f = (t.map f).insert k (f v) := by
  refine ext_get? fun k' => ?_
  simp only [get?_map, get?_insert]
  split <;> rfl

theorem map_erase (f : β → γ) (t : Table κ β) (k : κ) :
    (t.erase k).map f = (t.map f).erase k := by
  refine ext_get? fun k' => ?_
  simp only [get?_map, get?_erase]
  split <;> rfl

/-! ## Keys -/

/-- A strictly increasing list of keys. -/
theorem keys_sorted (t : Table κ β) : t.keys.Pairwise (· < ·) :=
  List.pairwise_map.2 t.sorted

theorem nodup_keys (t : Table κ β) : t.keys.Nodup :=
  t.keys_sorted.imp ne_of_lt

theorem perm_foldl_insert {t : Table κ β} {l : List (κ × β)}
    (h : ((t.pairs ++ l).map Prod.fst).Nodup) :
    (l.foldl (fun t p => t.insert p.1 p.2) t).pairs.Perm (t.pairs ++ l) := by
  induction l generalizing t with
  | nil => rw [List.append_nil]; exact .refl _
  | cons p l ih =>
    have hmiddle : (t.pairs ++ p :: l).Perm (p :: (t.pairs ++ l)) := List.perm_middle
    have hp : p.1 ∉ t.keys := fun hmem => by
      have hcons := (hmiddle.map Prod.fst).nodup h
      refine (List.nodup_cons.1 hcons).1 ?_
      rw [List.map_append]
      exact List.mem_append_left _ hmem
    have hnone : t.get? p.1 = none := by
      rwa [mem_keys_iff, Option.not_isSome_iff_eq_none] at hp
    have hinsert := t.perm_insert p.1 p.2
    rw [erase_eq_self hnone] at hinsert
    have hall : ((t.insert p.1 p.2).pairs ++ l).Perm (t.pairs ++ p :: l) :=
      (hinsert.append_right l).trans hmiddle.symm
    exact (ih ((hall.map Prod.fst).nodup_iff.2 h)).trans hall

/-- A list of pairs with different keys, put into a table, is there. -/
theorem perm_ofList {l : List (κ × β)} (h : (l.map Prod.fst).Nodup) : (ofList l).pairs.Perm l :=
  perm_foldl_insert (t := empty) h

/-- Pairs with different keys are those of a table. -/
theorem exists_of_nodup {l : List (κ × β)} (h : (l.map Prod.fst).Nodup) :
    ∃ t : Table κ β, t.pairs.Perm l :=
  ⟨ofList l, perm_ofList h⟩

/-- The order in which they are put there does not matter. -/
theorem ofList_eq_of_perm {l l' : List (κ × β)} (hl : l.Perm l') (h : (l.map Prod.fst).Nodup) :
    ofList l = ofList l' :=
  eq_of_perm ((perm_ofList h).trans
    (hl.trans (perm_ofList ((hl.map Prod.fst).nodup_iff.1 h)).symm))

/-! ## Unions -/

/-- No key is bound in both. -/
def Disjoint (t u : Table κ β) : Prop :=
  ∀ k, t.contains k = true → u.contains k = false

/-- The table binds what one of the others binds. -/
def IsUnion (t : Table κ β) (us : List (Table κ β)) : Prop :=
  ∀ k v, t.get? k = some v ↔ ∃ u ∈ us, u.get? k = some v

theorem contains_iff_mem (t : Table κ β) (k : κ) : t.contains k = true ↔ k ∈ t.keys :=
  (t.mem_keys_iff k).symm

/-- **A table has the pairs of all the others together** if and only if these share no key and it is
their union. -/
theorem perm_flatMap_iff {t : Table κ β} {us : List (Table κ β)} :
    t.pairs.Perm (us.flatMap pairs) ↔ us.Pairwise Disjoint ∧ t.IsUnion us := by
  have hunion : t.IsUnion us ↔ ∀ p, p ∈ t.pairs ↔ p ∈ us.flatMap pairs := by
    simp only [IsUnion, get?_eq_some_iff, List.mem_flatMap, Prod.forall]
  constructor
  · intro h
    refine ⟨?_, hunion.2 fun p => h.mem_iff⟩
    have hkeys : (us.flatMap keys).Nodup := by
      have hmap := (h.map Prod.fst).nodup t.nodup_keys
      rwa [List.map_flatMap] at hmap
    refine (List.nodup_flatMap.1 hkeys).2.imp fun {u u'} hdisjoint k hk => ?_
    rw [Bool.eq_false_iff, ne_eq, contains_iff_mem]
    exact hdisjoint ((u.contains_iff_mem k).1 hk)
  · rintro ⟨hdisjoint, h⟩
    have hpairs : (us.flatMap pairs).Nodup := by
      refine List.nodup_flatMap.2 ⟨fun u _ => u.nodup_pairs, ?_⟩
      refine hdisjoint.imp fun {u u'} hu p hp hp' => ?_
      have hk := hu p.1 ((u.contains_iff_mem p.1).2 (List.mem_map_of_mem hp))
      rw [Bool.eq_false_iff, ne_eq, contains_iff_mem] at hk
      exact hk (List.mem_map_of_mem hp')
    exact (List.perm_ext_iff_of_nodup t.nodup_pairs hpairs).2 (hunion.1 h)

end Tenancy.Table
