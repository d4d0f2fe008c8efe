import Mathlib.Data.List.DropRight
import Tenancy.Text.Blank

/-!
# Proofs/Text/Blank — what trimming leaves

    text  =  blanks ++ trim text ++ blanks

What is left neither begins nor ends with a blank (`Text.trimmed_trim`), and there is no other such
text between the blanks (`Text.trim_append`).  So trimming leaves a text alone if and only if it is
trimmed (`Text.trim_eq_self_iff`).
-/

namespace Tenancy.Text

/-- Neither the first character is blank nor the last. -/
structure Trimmed (cs : List Char) : Prop where
  head : ∀ c ∈ cs.head?, isBlank c = false
  last : ∀ c ∈ cs.getLast?, isBlank c = false

/-- Nothing but blanks. -/
def Blanks (cs : List Char) : Prop :=
  ∀ c ∈ cs, isBlank c = true

theorem trimmed_of_forall {cs : List Char} (h : ∀ c ∈ cs, isBlank c = false) : Trimmed cs :=
  ⟨fun c hc => h c (List.mem_of_head? hc), fun c hc => h c (List.mem_of_getLast? hc)⟩

/-! ## Between blanks -/

theorem dropWhile_blanks_append {lead cs : List Char} (hlead : Blanks lead)
    (hcs : ∀ c ∈ cs.head?, isBlank c = false) : (lead ++ cs).dropWhile isBlank = cs := by
  rw [List.dropWhile_append_of_pos hlead]
  cases cs with
  | nil => rfl
  | cons c cs => exact List.dropWhile_cons_of_neg (by simp [hcs c rfl])

theorem trimEnd_append_blanks {cs trail : List Char} (hcs : ∀ c ∈ cs.getLast?, isBlank c = false)
    (htrail : Blanks trail) : trimEnd (cs ++ trail) = cs := by
  have hreverse : Blanks trail.reverse := fun c hc => htrail c (List.mem_reverse.1 hc)
  rw [trimEnd, List.reverse_append,
    dropWhile_blanks_append hreverse (by rwa [List.head?_reverse]), List.reverse_reverse]

theorem trim_of_head {cs : List Char} (h : ∀ c ∈ cs.head?, isBlank c = false) :
    trim cs = trimEnd cs := by
  have hlead : Blanks [] := nofun
  rw [trim, ← List.nil_append cs, dropWhile_blanks_append hlead h, List.nil_append]

theorem trimEnd_eq_nil_iff {cs : List Char} : trimEnd cs = [] ↔ Blanks cs :=
  List.rdropWhile_eq_nil_iff

/-- What comes before the last character that is not blank stays. -/
theorem trimEnd_append_cons (as : List Char) {x : Char} (h : isBlank x = false) (bs : List Char) :
    trimEnd (as ++ x :: bs) = as ++ x :: trimEnd bs := by
  have hfront : (x :: as.reverse).dropWhile isBlank = x :: as.reverse :=
    List.dropWhile_cons_of_neg (by simp [h])
  rw [trimEnd, List.reverse_append, List.reverse_cons, List.append_assoc, List.singleton_append,
    List.dropWhile_append, hfront]
  split
  · rename_i hnil
    rw [trimEnd, List.isEmpty_iff.1 hnil]
    simp
  · rw [trimEnd]
    simp

theorem trim_eq_nil {cs : List Char} (h : Blanks cs) : trim cs = [] := by
  rw [trim, List.dropWhile_eq_nil_iff.2 h]
  rfl

/-- **A trimmed text is what is left of it with blanks around.** -/
theorem trim_append {lead cs trail : List Char} (hlead : Blanks lead) (hcs : Trimmed cs)
    (htrail : Blanks trail) : trim (lead ++ (cs ++ trail)) = cs := by
  cases cs with
  | nil =>
    rw [List.nil_append]
    exact trim_eq_nil (List.forall_mem_append.2 ⟨hlead, htrail⟩)
  | cons c cs =>
    have hdrop : (lead ++ (c :: cs ++ trail)).dropWhile isBlank = c :: cs ++ trail :=
      dropWhile_blanks_append hlead hcs.head
    rw [trim, hdrop, trimEnd_append_blanks hcs.last htrail]

/-! ## What is left -/

theorem trimmed_trim (cs : List Char) : Trimmed (trim cs) := by
  constructor
  · intro c hc
    obtain ⟨rest, hrest⟩ : trim cs <+: cs.dropWhile isBlank := List.rdropWhile_prefix isBlank _
    have hhead := List.head?_dropWhile_not isBlank cs
    rw [← hrest, List.head?_append, Option.mem_def.1 hc] at hhead
    exact hhead
  · intro c hc
    obtain ⟨hne, rfl⟩ := List.mem_getLast?_eq_getLast hc
    exact Bool.eq_false_iff.2 (List.rdropWhile_last_not isBlank (cs.dropWhile isBlank) hne)

/-- Trimming leaves a text alone if and only if it is trimmed. -/
theorem trim_eq_self_iff {cs : List Char} : trim cs = cs ↔ Trimmed cs := by
  constructor
  · intro h
    rw [← h]
    exact trimmed_trim cs
  · intro h
    have hnone : Blanks [] := nofun
    simpa using trim_append hnone h hnone

theorem trim_eq_self {cs : List Char} (h : ∀ c ∈ cs, isBlank c = false) : trim cs = cs :=
  trim_eq_self_iff.2 (trimmed_of_forall h)

/-- **Trimming takes off blanks and nothing else.** -/
theorem exists_trim (cs : List Char) :
    ∃ lead trail, Blanks lead ∧ Blanks trail ∧ cs = lead ++ (trim cs ++ trail) := by
  refine ⟨cs.takeWhile isBlank, (cs.dropWhile isBlank).rtakeWhile isBlank, fun c hc => ?_,
    fun c hc => List.mem_rtakeWhile_imp hc, ?_⟩
  · exact List.mem_takeWhile_imp hc
  · have hend : trim cs ++ (cs.dropWhile isBlank).rtakeWhile isBlank = cs.dropWhile isBlank :=
      List.rdropWhile_append_rtakeWhile
    rw [hend, List.takeWhile_append_dropWhile]

theorem trim_sublist (cs : List Char) : (trim cs).Sublist cs :=
  (List.rdropWhile_prefix isBlank _).sublist.trans (List.dropWhile_sublist isBlank)

end Tenancy.Text
