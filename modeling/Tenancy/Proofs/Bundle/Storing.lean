import Tenancy.Bundle.Extraction
import Tenancy.Proofs.Table

/-!
# Proofs/Bundle/Storing — what is stored does not depend on the order

Carrying out steps succeeds if and only if none of them is a failure and no key comes up twice, and
then the map has what they store and what was there before:

    pairs of the map  =  pairs before ++ pairs stored,   in some order

(`Extraction.store_eq_ok_iff`).  So the steps may be carried out in any order
(`Extraction.store_perm`).
-/

namespace Tenancy.Extraction

variable {s : ExtractorSettings} {steps steps' : List Step} {m₀ m : ArtifactMap}

/-! ## What is stored -/

/-- The pair that a step stores, if it stores one. -/
def Step.stored? : Step → Option (ArtifactKey × Entry)
  | .store key content => some (key, .compress key content)
  | _ => none

def stored (steps : List Step) : List (ArtifactKey × Entry) :=
  steps.filterMap Step.stored?

/-- No step is a failure. -/
def Unfailing (steps : List Step) : Prop :=
  ∀ e, .fail e ∉ steps

@[simp] theorem stored_append (steps steps' : List Step) :
    stored (steps ++ steps') = stored steps ++ stored steps' :=
  List.filterMap_append

@[simp] theorem stored_flatMap {α : Type} (f : α → List Step) (l : List α) :
    stored (l.flatMap f) = l.flatMap fun a => stored (f a) :=
  List.filterMap_flatMap

theorem unfailing_flatMap {α : Type} {f : α → List Step} {l : List α} :
    Unfailing (l.flatMap f) ↔ ∀ a ∈ l, Unfailing (f a) := by
  simp only [Unfailing, List.mem_flatMap, not_exists, not_and]
  exact ⟨fun h a ha e => h e a ha, fun h e a ha => h a ha e⟩

/-! ## Storing -/

/-- What is stored next to a key that is there already is not what any map has. -/
theorem not_perm_of_contains {key : ArtifactKey} {e : Entry} {rest : List (ArtifactKey × Entry)}
    (h : m₀.contains key = true) : ¬ m.pairs.Perm (m₀.pairs ++ (key, e) :: rest) := by
  intro hperm
  have hkeys := (hperm.map Prod.fst).nodup m.nodup_keys
  rw [List.map_append, List.map_cons, List.nodup_append] at hkeys
  exact hkeys.2.2 key ((m₀.contains_iff_mem key).1 h) key List.mem_cons_self rfl

theorem perm_insert_append {key : ArtifactKey} (h : m₀.contains key = false) (e : Entry)
    (rest : List (ArtifactKey × Entry)) :
    ((m₀.insert key e).pairs ++ rest).Perm (m₀.pairs ++ (key, e) :: rest) := by
  have hnone : m₀.get? key = none := by
    rw [Table.contains] at h
    exact Option.isNone_iff_eq_none.1 (by simpa using h)
  have hinsert := m₀.perm_insert key e
  rw [Table.erase_eq_self hnone] at hinsert
  exact (hinsert.append_right rest).trans List.perm_middle.symm

/-- **Storing succeeds if and only if no step fails and no key comes up twice**; the map has what
was there and what is stored. -/
theorem store_eq_ok_iff :
    store steps m₀ = .ok m ↔ Unfailing steps ∧ m.pairs.Perm (m₀.pairs ++ stored steps) := by
  -- each step leaves the others a larger map, so the map before is general
  induction steps generalizing m₀ with
  | nil =>
    rw [store, Except.ok.injEq, stored, List.filterMap_nil, List.append_nil]
    constructor
    · rintro rfl
      exact ⟨nofun, .refl _⟩
    · exact fun h => (Table.eq_of_perm h.2).symm
  | cons step steps ih =>
    cases step with
    | store key content =>
      have hunfailing : Unfailing (.store key content :: steps) ↔ Unfailing steps := by
        simp [Unfailing]
      have hstored : stored (.store key content :: steps) =
          (key, .compress key content) :: stored steps := rfl
      rw [store, hunfailing, hstored]
      split
      · rename_i h
        exact ⟨nofun, fun hm => absurd hm.2 (not_perm_of_contains h)⟩
      · rename_i h
        have hperm := perm_insert_append (Bool.eq_false_iff.2 h) (.compress key content)
          (stored steps)
        rw [ih]
        exact and_congr_right fun _ => ⟨fun hm => hm.trans hperm, fun hm => hm.trans hperm.symm⟩
    | report e =>
      have hunfailing : Unfailing (.report e :: steps) ↔ Unfailing steps := by simp [Unfailing]
      rw [store, ih, hunfailing]
      rfl
    | fail e =>
      rw [store]
      exact ⟨nofun, fun h => absurd List.mem_cons_self (h.1 e)⟩

theorem store_empty_eq_ok_iff :
    store steps ∅ = .ok m ↔ Unfailing steps ∧ m.pairs.Perm (stored steps) :=
  store_eq_ok_iff

/-- **The order of the steps does not matter** to what is stored, or to whether it is. -/
theorem store_perm (h : steps.Perm steps') :
    store steps m₀ = .ok m ↔ store steps' m₀ = .ok m := by
  have hunfailing : Unfailing steps ↔ Unfailing steps' :=
    forall_congr' fun e => not_congr h.mem_iff
  have hstored : (m₀.pairs ++ stored steps).Perm (m₀.pairs ++ stored steps') :=
    (h.filterMap _).append_left _
  rw [store_eq_ok_iff, store_eq_ok_iff, hunfailing]
  exact and_congr_right fun _ => ⟨fun hm => hm.trans hstored, fun hm => hm.trans hstored.symm⟩

/-- The step is more than a report. -/
def Step.matters : Step → Bool
  | .report _ => false
  | _ => true

/-- Reports do not matter, not even to the failure. -/
theorem store_filter_matters (steps : List Step) (m₀ : ArtifactMap) :
    store (steps.filter Step.matters) m₀ = store steps m₀ := by
  induction steps generalizing m₀ with
  | nil => rfl
  | cons step steps ih =>
    cases step with
    | store key content =>
      rw [List.filter_cons_of_pos rfl, store, store]
      split
      · rfl
      · exact ih _
    | report e =>
      rw [List.filter_cons_of_neg (by simp [Step.matters]), store]
      exact ih _
    | fail e => rw [List.filter_cons_of_pos rfl, store, store]

/-- **Storing fails where a step does, or on a key that comes up twice.** -/
theorem store_eq_error {e : NamespaceError} (h : store steps m₀ = .error e) :
    .fail e ∈ steps ∨ ∃ key, e = .duplicateResource key ∧
      2 ≤ (m₀.keys ++ (stored steps).map Prod.fst).count key := by
  induction steps generalizing m₀ with
  | nil => cases h
  | cons step steps ih =>
    cases step with
    | store key content =>
      rw [store] at h
      have hstored : (stored (.store key content :: steps)).map Prod.fst =
          key :: (stored steps).map Prod.fst := rfl
      rw [hstored]
      split at h
      · rename_i hkey
        cases h
        have hmem := (m₀.contains_iff_mem key).1 hkey
        have hpos := List.count_pos_iff.2 hmem
        refine .inr ⟨key, rfl, ?_⟩
        rw [List.count_append, List.count_cons_self]
        omega
      · rename_i hkey
        have hkeys := (perm_insert_append (Bool.eq_false_iff.2 hkey) (.compress key content)
          (stored steps)).map Prod.fst
        rw [List.map_append, List.map_append] at hkeys
        rcases ih h with hfail | ⟨k, hk, hcount⟩
        · exact .inl (List.mem_cons_of_mem _ hfail)
        · exact .inr ⟨k, hk, hkeys.count_eq k ▸ hcount⟩
    | report ev =>
      rcases ih h with hfail | hduplicate
      · exact .inl (List.mem_cons_of_mem _ hfail)
      · exact .inr hduplicate
    | fail e' =>
      cases h
      exact .inl List.mem_cons_self

end Tenancy.Extraction
