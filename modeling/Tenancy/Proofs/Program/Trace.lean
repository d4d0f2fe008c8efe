import Mathlib.Logic.Relation
import Tenancy.Program

/-!
# Proofs/Program/Trace — runs with what is done in them

A run of several programs leaves a trace, the actions that were performed with their answers.  What
holds of the world after every action holds after a run (`Program.Runs.preserves`), and so does what
ties the world to the trace (`Program.Runs.traces`).  A run in which it is laid down who goes on
when, and how far, is computed (`Program.runs_schedule`).
-/

namespace Tenancy

/-- An action that was performed, with its answer. -/
abbrev Deed := Σ a : Action, a.Answer

namespace Program

variable {α σ : Type} [Plugin.Backend σ]

/-- **The programs take turns**, one action at a time, and leave a trace. -/
inductive Runs :
    List (Program α) × World σ → List Deed → List (Program α) × World σ → Prop
  | stop (t : List (Program α) × World σ) : Runs t [] t
  | act (before after : List (Program α)) (a : Action) (next : a.Answer → Program α) (w : World σ)
      (h : w.Enabled a) {ds : List Deed} {t : List (Program α) × World σ}
      (hrest : Runs (before ++ next (w.perform a).1 :: after, (w.perform a).2) ds t) :
      Runs (before ++ .act a next :: after, w) (⟨a, (w.perform a).1⟩ :: ds) t

namespace Runs

variable {t t' t'' : List (Program α) × World σ} {ds ds' : List Deed}

/-- Runs with a trace are runs. -/
theorem exists_iff : (∃ ds, Runs t ds t') ↔ Relation.ReflTransGen Step t t' := by
  constructor
  · rintro ⟨ds, h⟩
    induction h with
    | stop t => exact .refl
    | act before after a next w he _ ih => exact .head (.act before after a next w he) ih
  · intro h
    induction h using Relation.ReflTransGen.head_induction_on with
    | refl => exact ⟨[], .stop t'⟩
    | head hstep _ ih =>
      obtain ⟨ds, hds⟩ := ih
      cases hstep with
      | act before after a next w he => exact ⟨_, .act before after a next w he hds⟩

theorem append (h : Runs t ds t') (h' : Runs t' ds' t'') : Runs t (ds ++ ds') t'' := by
  induction h with
  | stop t => exact h'
  | act before after a next w he _ ih => exact .act before after a next w he (ih h')

/-- What no action breaks holds after a run. -/
theorem preserves {F : World σ → Prop} (hF : ∀ {w a}, F w → w.Enabled a → F (w.perform a).2)
    (h : Runs t ds t') (hi : F t.2) : F t'.2 := by
  induction h with
  | stop t => exact hi
  | act before after a next w he _ ih => exact ih (hF hi he)

/-- **What ties the world to the trace**, action by action. -/
theorem traces {J : List Deed → World σ → Prop}
    (hJ : ∀ {ds w a}, J ds w → w.Enabled a → J (ds ++ [⟨a, (w.perform a).1⟩]) (w.perform a).2)
    (h : Runs t ds t') (hi : J [] t.2) : J ds t'.2 := by
  -- after the first deed the tie is to the trace from there on
  induction h generalizing J with
  | stop t => exact hi
  | act before after a next w he _ ih =>
    exact ih (J := fun ds w' => J (⟨a, (w.perform a).1⟩ :: ds) w') hJ (hJ hi he)

end Runs

/-! ## Runs by schedule -/

/-- Performs actions up to the first that is to be put off, or has to wait: what was done, what is
left to do, and the world. -/
def advanceTo (putOff : Action → Bool) :
    Program α → World σ → List Deed × Program α × World σ
  | .done x, w => ([], .done x, w)
  | .act a next, w =>
    if w.Enabled a ∧ putOff a = false then
      let rest := advanceTo putOff (next (w.perform a).1) (w.perform a).2
      (⟨a, (w.perform a).1⟩ :: rest.1, rest.2)
    else ([], .act a next, w)

theorem runs_advanceTo (putOff : Action → Bool) (before after : List (Program α)) (p : Program α)
    (w : World σ) :
    Runs (before ++ p :: after, w) (p.advanceTo putOff w).1
      (before ++ (p.advanceTo putOff w).2.1 :: after, (p.advanceTo putOff w).2.2) := by
  induction p generalizing w with
  | done x => exact .stop _
  | act a next ih =>
    rw [advanceTo]
    split
    · rename_i h
      exact .act before after a next w h.1 (ih _ _)
    · exact .stop _

/-- **The threads that a schedule names go on in turn**, each as far as it says. -/
def schedule : List (Nat × (Action → Bool)) → List (Program α) × World σ →
    List Deed × List (Program α) × World σ
  | [], t => ([], t)
  | (i, putOff) :: turns, (ps, w) =>
    match ps[i]? with
    | none => schedule turns (ps, w)
    | some p =>
      let turn := p.advanceTo putOff w
      let rest := schedule turns (ps.set i turn.2.1, turn.2.2)
      (turn.1 ++ rest.1, rest.2)

theorem runs_schedule (turns : List (Nat × (Action → Bool))) (t : List (Program α) × World σ) :
    Runs t (schedule turns t).1 (schedule turns t).2 := by
  induction turns generalizing t with
  | nil => exact .stop t
  | cons turn turns ih =>
    obtain ⟨i, putOff⟩ := turn
    obtain ⟨ps, w⟩ := t
    rw [schedule]
    split
    · exact ih _
    · rename_i p hp
      obtain ⟨hi, rfl⟩ := List.getElem?_eq_some_iff.1 hp
      have hturn := runs_advanceTo putOff (ps.take i) (ps.drop (i + 1)) ps[i] w
      have hset : ∀ p', ps.set i p' = ps.take i ++ p' :: ps.drop (i + 1) := fun p' => by
        rw [List.set_eq_take_append_cons_drop, if_pos hi]
      rw [← hset, ← hset, List.set_getElem_self] at hturn
      exact hturn.append (ih _)

theorem steps_schedule {turns : List (Nat × (Action → Bool))} {t : List (Program α) × World σ}
    (t' : List (Program α) × World σ) (h : (schedule turns t).2 = t') :
    Relation.ReflTransGen Step (t.1, t.2) (t'.1, t'.2) := by
  rw [← h]
  exact Runs.exists_iff.1 ⟨_, runs_schedule turns t⟩

end Program

end Tenancy
