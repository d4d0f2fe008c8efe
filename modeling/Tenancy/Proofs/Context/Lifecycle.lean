import Tenancy.Program

/-!
# Proofs/Context/Lifecycle — contexts only grow older

The states of a context are passed through in one direction, `active < shuttingDown < disposed`.
So what has left a state never comes back to it, whatever is done with the context
(`World.age_le_perform`, `Program.age_le_run`).
-/

namespace Tenancy

namespace ContextState

/-- How far a state is along. -/
def age : ContextState → Nat
  | .active => 0
  | .shuttingDown => 1
  | .disposed => 2

theorem ne_active_iff (s : ContextState) : s ≠ .active ↔ 0 < s.age := by
  cases s <;> simp [age]

theorem eq_disposed_of_age {s : ContextState} (h : 2 ≤ s.age) : s = .disposed := by
  cases s with
  | active => simp [age] at h
  | shuttingDown => simp [age] at h
  | disposed => rfl

theorem age_le_disposed (s : ContextState) : s.age ≤ ContextState.disposed.age := by
  cases s <;> simp [age]

end ContextState

namespace Lifecycle

theorem state_enter (l : Lifecycle) : l.enter.2.state = l.state := by
  unfold enter
  split <;> rfl

/-- **What an action can do to the lifecycle of a context.** -/
inductive Move (c : ContextId) (l : Lifecycle) : Action → Lifecycle → Prop
  | stay (a : Action) : Move c l a l
  | enter : Move c l (.enter c) l.enter.2
  | leave : Move c l (.leave c) l.leave
  | refuse : Move c l (.refuse c) l.refuse.2
  | beginClose : Move c l (.beginClose c) l.beginClose.2
  | finishClose : Move c l (.finishClose c) l.finishClose.2

namespace Move

variable {c : ContextId} {l l' : Lifecycle} {a : Action}

/-- No action makes a context younger. -/
theorem age_le (h : Move c l a l') : l.state.age ≤ l'.state.age := by
  cases h with
  | stay => exact Nat.le_refl _
  | enter => exact Nat.le_of_eq (congrArg ContextState.age l.state_enter.symm)
  | leave => exact Nat.le_refl _
  | refuse => exact Nat.le_refl _
  | beginClose =>
    unfold Lifecycle.beginClose
    split
    · rename_i ha; rw [ha]; exact Nat.zero_le _
    · exact Nat.le_refl _
  | finishClose => exact l.state.age_le_disposed

/-- Only finishing disposes of a context. -/
theorem eq_finishClose (h : Move c l a l') (hl : l.state ≠ .disposed) (hl' : l'.state = .disposed) :
    a = .finishClose c := by
  cases h with
  | stay => exact absurd hl' hl
  | enter => rw [state_enter] at hl'; exact absurd hl' hl
  | leave => exact absurd hl' hl
  | refuse => exact absurd hl' hl
  | beginClose =>
    unfold Lifecycle.beginClose at hl'
    split at hl'
    · cases hl'
    · exact absurd hl' hl
  | finishClose => rfl

/-- A context that was left by all after it was taken out of use is not entered again. -/
theorem drained (h : Move c l a l') (hs : l.state ≠ .active) (hf : l.inFlight = 0) :
    l'.inFlight = 0 := by
  cases h with
  | stay => exact hf
  | enter => rw [Lifecycle.enter, if_neg hs]; exact hf
  | leave => rw [Lifecycle.leave, hf]
  | refuse => exact hf
  | beginClose => rw [Lifecycle.beginClose, if_neg hs]; exact hf
  | finishClose => exact hf

end Move

end Lifecycle

namespace World

variable {σ : Type} [Plugin.Backend σ]

theorem move_perform (w : World σ) (a : Action) (c : ContextId) :
    Lifecycle.Move c (w.life c) a ((w.perform a).2.life c) := by
  have hmove : ∀ (c' : ContextId) (l : Lifecycle), (c' = c → Lifecycle.Move c (w.life c) a l) →
      Lifecycle.Move c (w.life c) a ((w.withLife c' l).life c) := fun c' l h => by
    rw [life_withLife]
    split
    · rename_i hc; exact h hc.symm
    · exact .stay a
  cases a with
  | enter c' => exact hmove c' _ fun hc => by rw [hc]; exact .enter
  | leave c' => exact hmove c' _ fun hc => by rw [hc]; exact .leave
  | refuse c' => exact hmove c' _ fun hc => by rw [hc]; exact .refuse
  | beginClose c' => exact hmove c' _ fun hc => by rw [hc]; exact .beginClose
  | finishClose c' => exact hmove c' _ fun hc => by rw [hc]; exact .finishClose
  | _ => exact .stay _

theorem age_le_perform (w : World σ) (a : Action) (c : ContextId) :
    (w.life c).state.age ≤ ((w.perform a).2.life c).state.age :=
  (w.move_perform a c).age_le

end World

/-- **No program makes a context younger.** -/
theorem Program.age_le_run {σ α : Type} [Plugin.Backend σ] (p : Program α) (w : World σ)
    (c : ContextId) : (w.life c).state.age ≤ ((p.run w).2.life c).state.age := by
  induction p generalizing w with
  | done x => exact Nat.le_refl _
  | act a next ih => exact Nat.le_trans (w.age_le_perform a c) (ih _ _)

theorem Program.disposed_run {σ α : Type} [Plugin.Backend σ] (p : Program α) {w : World σ}
    {c : ContextId} (h : (w.life c).state = .disposed) :
    ((p.run w).2.life c).state = .disposed := by
  refine ContextState.eq_disposed_of_age ?_
  have hage := p.age_le_run w c
  rw [h] at hage
  exact hage

end Tenancy
