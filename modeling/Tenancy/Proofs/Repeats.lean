import Mathlib.Data.List.Nodup

/-!
# Proofs/Repeats — first occurrences

Services and providers count where they occur first.  A list of blocks that can be told apart, none
with repetitions of its own, is freed of repetitions block by block (`eraseDups_flatMap`).
-/

namespace Tenancy

variable {α β : Type} [BEq α] [LawfulBEq α] [BEq β] [LawfulBEq β]

theorem nodup_eraseDups (l : List α) : l.eraseDups.Nodup := by
  match l with
  | [] => exact List.nodup_nil
  | a :: l =>
    have hshort : (l.filter fun b => !b == a).length < l.length + 1 :=
      Nat.lt_succ_of_le (List.length_filter_le _ _)
    rw [List.eraseDups_cons]
    refine List.nodup_cons.2 ⟨fun h => ?_, nodup_eraseDups _⟩
    have ha := (List.mem_filter.1 (List.mem_eraseDups.1 h)).2
    simp at ha
termination_by l.length

theorem eraseDups_of_nodup {l : List α} (h : l.Nodup) : l.eraseDups = l := by
  induction l with
  | nil => rfl
  | cons a l ih =>
    obtain ⟨ha, hl⟩ := List.nodup_cons.1 h
    have hfilter : (l.filter fun b => !b == a) = l :=
      List.filter_eq_self.2 fun b hb => by
        have hne : b ≠ a := fun he => ha (he ▸ hb)
        simpa using hne
    rw [List.eraseDups_cons, hfilter, ih hl]

/-- Taking one block out of a list of blocks takes out all copies of it, and no other. -/
theorem removeAll_flatMap {f : α → List β} (label : β → α) (hlabel : ∀ a, ∀ b ∈ f a, label b = a)
    (a : α) (l : List α) :
    (l.flatMap f).removeAll (f a) = (l.filter fun b => !b == a).flatMap f := by
  induction l with
  | nil => rfl
  | cons a' l ih =>
    rw [List.removeAll] at ih ⊢
    rw [List.flatMap_cons, List.filter_append, ih]
    by_cases ha : a' = a
    · subst ha
      have hnone : ((f a').filter fun b => !(f a').elem b) = [] :=
        List.filter_eq_nil_iff.2 fun b hb => by simpa using hb
      rw [hnone, List.filter_cons_of_neg (by simp), List.nil_append]
    · have hall : ((f a').filter fun b => !(f a).elem b) = f a' :=
        List.filter_eq_self.2 fun b hb => by
          have hout : b ∉ f a := fun hb' => ha ((hlabel a' b hb).symm.trans (hlabel a b hb'))
          simpa using hout
      rw [hall, List.filter_cons_of_pos (by simpa using ha), List.flatMap_cons]

theorem eraseDups_flatMap {f : α → List β} (label : β → α)
    (hlabel : ∀ a, ∀ b ∈ f a, label b = a) (hf : ∀ a, (f a).Nodup) (l : List α) :
    (l.flatMap f).eraseDups = l.eraseDups.flatMap f := by
  match l with
  | [] => rfl
  | a :: l =>
    have hshort : (l.filter fun b => !b == a).length < l.length + 1 :=
      Nat.lt_succ_of_le (List.length_filter_le _ _)
    rw [List.flatMap_cons, List.eraseDups_append, eraseDups_of_nodup (hf a), List.eraseDups_cons,
      List.flatMap_cons, removeAll_flatMap label hlabel, eraseDups_flatMap label hlabel hf]
termination_by l.length

end Tenancy
