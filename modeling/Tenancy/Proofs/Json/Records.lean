import Tenancy.Dialect
import Tenancy.Proofs.Json.RoundTrip

/-!
# Proofs/Json/Records — a written record reads back

A record that is written as an object with all its fields in order gives each field what was
written there.
-/

namespace Tenancy.Json

theorem keyed?_map (ms : List (String × Json)) :
    keyed? (ms.map fun m => (some m.1, m.2)) = some ms := by
  rw [keyed?, List.mapM_map]
  exact List.mapM_pure.trans (congrArg some (List.map_id ms))

theorem noRepeats_of_nodup {ms : List (String × Json)} (h : (ms.map (·.1)).Nodup)
    (fields : List String) : noRepeats fields ms = true := by
  refine List.all_eq_true.2 fun f _ => decide_eq_true ?_
  have hcount := List.nodup_iff_count.1 h f
  rwa [List.count, List.countP_map] at hcount

theorem lookup_eq_some {ms : List (String × Json)} (h : (ms.map (·.1)).Nodup)
    {m : String × Json} (hm : m ∈ ms) : ms.lookup m.1 = some m.2 := by
  induction ms with
  | nil => exact absurd hm List.not_mem_nil
  | cons n ms ih =>
    rw [List.map_cons, List.nodup_cons] at h
    obtain rfl | hm := List.mem_cons.1 hm
    · exact List.lookup_cons_self
    · have hne : (m.1 == n.1) = false :=
        beq_false_of_ne fun heq => h.1 (heq ▸ List.mem_map_of_mem hm)
      rw [List.lookup_cons, hne]
      exact ih h.2 hm

/-- **A record that is written as an object gives each field what was written there.** -/
theorem record?_obj (ms : List (String × Json)) (h : (ms.map (·.1)).Nodup) :
    (obj ms).record? (ms.map (·.1)) = some (ms.map fun m => some m.2) := by
  have hfields : (ms.map (·.1)).map (fun f => ms.lookup f) = ms.map fun m => some m.2 := by
    rw [List.map_map]
    exact List.map_congr_left fun m hm => lookup_eq_some h hm
  rw [obj, record?, keyed?_map]
  simp only [bind, Option.bind, noRepeats_of_nodup h, if_true, hfields]

/-! ## Fields -/

variable {α : Type} {read : Json → Option α} (write : α → Json)

theorem listOf?_map (h : ∀ a, read (write a) = some a) (xs : List α) :
    listOf? read (.array (xs.map write)) = some xs := by
  simp only [listOf?, asArray?, Option.bind_some, List.mapM_map, Function.comp_def, h]
  exact List.mapM_pure.trans (congrArg some (List.map_id xs))

/-- What is absent is written as null, and nothing else is. -/
theorem optional?_opt (h : ∀ a, read (write a) = some a) (hnull : ∀ a, write a ≠ .null)
    (x : Option α) : optional? read (opt (x.map write)) = some x := by
  cases x with
  | none => rfl
  | some a =>
    change optional? read (write a) = some (some a)
    rw [optional?, h]
    · rfl
    · exact hnull a

theorem dialect_optional? (j : Json) : dialect.optional? read j = optional? read j := by
  cases j <;> rfl

end Tenancy.Json
