/-!
# Table — finite maps kept in key order

A table is a list of pairs whose keys increase strictly, so two tables that answer every key alike
are equal. `insert` and `erase` are described by what `get?` finds after them.
-/

namespace Tenancy

/-- Types whose values are ordered strictly and totally. -/
class LinearKey (κ : Type) extends LT κ where
  decLt : DecidableLT κ
  decEq : DecidableEq κ
  irrefl : ∀ a : κ, ¬ a < a
  trans : ∀ {a b c : κ}, a < b → b < c → a < c
  connected : ∀ a b : κ, a < b ∨ a = b ∨ b < a

instance LinearKey.decidableLT {κ : Type} [LinearKey κ] : DecidableLT κ := LinearKey.decLt
instance (priority := low) LinearKey.decidableEq {κ : Type} [LinearKey κ] : DecidableEq κ :=
  LinearKey.decEq

instance : LinearKey String where
  decLt := inferInstance
  decEq := inferInstance
  irrefl := String.lt_irrefl
  trans := String.lt_trans
  connected a b := by
    by_cases h : a < b
    · exact .inl h
    · by_cases h' : b < a
      · exact .inr (.inr h')
      · exact .inr (.inl (String.le_antisymm h' h))

structure Table (κ β : Type) [LinearKey κ] where
  pairs : List (κ × β)
  sorted : pairs.Pairwise fun a b => a.1 < b.1

namespace Table

variable {κ β : Type} [LinearKey κ]

/-! ## Lists in key order -/

/-- Puts a pair in its place, instead of one with the same key. -/
def insertPair (k : κ) (v : β) : List (κ × β) → List (κ × β)
  | [] => [(k, v)]
  | (k', v') :: rest =>
    if k < k' then (k, v) :: (k', v') :: rest
    else if k = k' then (k, v) :: rest
    else (k', v') :: insertPair k v rest

theorem fst_mem_insertPair {k : κ} {v : β} {l : List (κ × β)} {p : κ × β}
    (h : p ∈ insertPair k v l) : p.1 = k ∨ p ∈ l := by
  induction l with
  | nil => simp_all [insertPair]
  | cons q l ih =>
    obtain ⟨k', v'⟩ := q
    simp only [insertPair] at h
    split at h
    · rcases List.mem_cons.1 h with rfl | h
      · exact .inl rfl
      · exact .inr h
    · split at h
      · rcases List.mem_cons.1 h with rfl | h
        · exact .inl rfl
        · exact .inr (List.mem_cons_of_mem _ h)
      · rcases List.mem_cons.1 h with rfl | h
        · exact .inr (List.mem_cons_self ..)
        · exact (ih h).imp_right (List.mem_cons_of_mem _)

theorem pairwise_insertPair (k : κ) (v : β) {l : List (κ × β)}
    (h : l.Pairwise fun a b => a.1 < b.1) :
    (insertPair k v l).Pairwise fun a b => a.1 < b.1 := by
  induction l with
  | nil => simp [insertPair]
  | cons q l ih =>
    obtain ⟨k', v'⟩ := q
    rw [List.pairwise_cons] at h
    simp only [insertPair]
    split
    · rename_i hk
      refine List.pairwise_cons.2 ⟨fun p hp => ?_, List.pairwise_cons.2 h⟩
      rcases List.mem_cons.1 hp with rfl | hp
      · exact hk
      · exact LinearKey.trans hk (h.1 p hp)
    · split
      · rename_i _ hk
        subst hk
        exact List.pairwise_cons.2 h
      · rename_i hlt hne
        refine List.pairwise_cons.2 ⟨fun p hp => ?_, ih h.2⟩
        rcases fst_mem_insertPair hp with hp | hp
        · rcases LinearKey.connected k k' with h1 | h1 | h1
          · exact absurd h1 hlt
          · exact absurd h1 hne
          · exact hp ▸ h1
        · exact h.1 p hp

/-! ## Operations -/

def empty : Table κ β :=
  ⟨[], List.Pairwise.nil⟩

instance : EmptyCollection (Table κ β) := ⟨empty⟩
instance : Inhabited (Table κ β) := ⟨empty⟩

/-- The value under a key. -/
def get? (t : Table κ β) (k : κ) : Option β :=
  (t.pairs.find? fun p => p.1 = k).map (·.2)

def contains (t : Table κ β) (k : κ) : Bool :=
  (t.get? k).isSome

/-- The table with the key bound to the value, whatever it was bound to before. -/
def insert (t : Table κ β) (k : κ) (v : β) : Table κ β :=
  ⟨insertPair k v t.pairs, pairwise_insertPair k v t.sorted⟩

/-- The table without the key. -/
def erase (t : Table κ β) (k : κ) : Table κ β :=
  ⟨t.pairs.filter fun p => !decide (p.1 = k), t.sorted.filter _⟩

def keys (t : Table κ β) : List κ :=
  t.pairs.map (·.1)

def values (t : Table κ β) : List β :=
  t.pairs.map (·.2)

def size (t : Table κ β) : Nat :=
  t.pairs.length

/-- The table of a list of pairs, later ones replacing earlier ones with the same key. -/
def ofList (l : List (κ × β)) : Table κ β :=
  l.foldl (fun t p => t.insert p.1 p.2) empty

/-! ## What `get?` finds -/

@[simp] theorem get?_empty (k : κ) : (∅ : Table κ β).get? k = none := rfl

theorem find?_insertPair_self (k : κ) (v : β) (l : List (κ × β)) :
    ((insertPair k v l).find? fun p => p.1 = k) = some (k, v) := by
  induction l with
  | nil => simp [insertPair]
  | cons q l ih =>
    obtain ⟨k', v'⟩ := q
    simp only [insertPair]
    split
    · simp
    · split
      · simp
      · rename_i hne
        simp [Ne.symm hne, ih]

theorem find?_insertPair_ne {k k' : κ} (v : β) (l : List (κ × β)) (h : k' ≠ k) :
    ((insertPair k v l).find? fun p => p.1 = k') = l.find? fun p => p.1 = k' := by
  induction l with
  | nil => simp [insertPair, Ne.symm h]
  | cons q l ih =>
    obtain ⟨k'', v'⟩ := q
    simp only [insertPair]
    split
    · simp [Ne.symm h]
    · split
      · rename_i heq
        subst heq
        simp [Ne.symm h]
      · by_cases hk : k'' = k' <;> simp [hk, ih]

@[simp] theorem get?_insert_self (t : Table κ β) (k : κ) (v : β) :
    (t.insert k v).get? k = some v := by
  simp [get?, insert, find?_insertPair_self]

theorem get?_insert_ne (t : Table κ β) {k k' : κ} (v : β) (h : k' ≠ k) :
    (t.insert k v).get? k' = t.get? k' := by
  simp [get?, insert, find?_insertPair_ne v t.pairs h]

@[simp] theorem get?_erase_self (t : Table κ β) (k : κ) : (t.erase k).get? k = none := by
  simp [get?, erase]

theorem get?_erase_ne (t : Table κ β) {k k' : κ} (h : k' ≠ k) :
    (t.erase k).get? k' = t.get? k' := by
  simp only [get?, erase, List.find?_filter]
  congr 2
  funext p
  by_cases hp : p.1 = k'
  · simp [hp, h]
  · simp [hp]

theorem get?_eq_some_iff (t : Table κ β) (k : κ) (v : β) :
    t.get? k = some v ↔ (k, v) ∈ t.pairs := by
  obtain ⟨l, hl⟩ := t
  simp only [get?, Option.map_eq_some_iff]
  constructor
  · rintro ⟨p, hp, rfl⟩
    have h1 := List.mem_of_find?_eq_some hp
    have h2 := List.find?_some hp
    simp only [decide_eq_true_eq] at h2
    exact h2 ▸ h1
  · intro h
    refine ⟨(k, v), ?_, rfl⟩
    induction l with
    | nil => simp at h
    | cons q l ih =>
      rw [List.pairwise_cons] at hl
      rcases List.mem_cons.1 h with rfl | h
      · simp
      · have hne : q.1 ≠ k := fun he => LinearKey.irrefl k (by simpa [he] using hl.1 _ h)
        simp [hne, ih hl.2 h]

theorem mem_keys_iff (t : Table κ β) (k : κ) : k ∈ t.keys ↔ (t.get? k).isSome := by
  rw [Option.isSome_iff_exists]
  simp only [get?_eq_some_iff, keys, List.mem_map, Prod.exists]
  constructor
  · rintro ⟨a, b, h, rfl⟩
    exact ⟨b, h⟩
  · rintro ⟨b, h⟩
    exact ⟨k, b, h, rfl⟩

end Table

end Tenancy
