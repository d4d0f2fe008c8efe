import Tenancy.Proofs.Activation.Stack
import Tenancy.Proofs.Registry.Contents

/-!
# Proofs/Activation/Entering — which context is current inside

A thread that activates a context enters its namespace, but not always the context: where a run of
the namespace is on top, the activation joins it, and the context that opened the run stays current
(`Enters`).  This holds for every way in (`current_of_entering`).  So a name that was replaced while
a thread was inside is entered again through the old context, which is disposed of
(`Registry.current_of_reentering`).
-/

namespace Tenancy

variable {σ τ α : Type} [Threaded σ τ]

open Threaded (thread)

/-! ## Ways in -/

/-- **The thread enters the namespace of a context.** -/
structure Enters (t : Thread σ) (c : Context) (t' : Thread σ) : Prop where
  named : t'.stack.currentName = some c.name
  /-- The context is current afterwards, unless another one of its name was before. -/
  current_iff : t'.stack.current = some c ↔
    ∀ top, t.stack.current = some top → top.name = c.name → top = c
  /-- That one is current still. -/
  kept : ∀ top, t.stack.current = some top → top.name = c.name → t'.stack.current = some top
  bound : t'.world.bound = t.world.bound

/-- The body runs after the thread has entered the namespace of a context, and the activation ends
when the body does. -/
def RunsInside (c : Context) (t : τ) (call : (τ → Ending α × τ) → Ending α × τ) : Prop :=
  ∃ start, Enters (thread t) c (thread start) ∧
    ∀ body, call body = Activation.dropGuard c.name (body start).1 (body start).2

theorem enters_push (c : Context) (t : τ) :
    Enters (thread t) c (thread (Activation.push c t).2) := by
  have hcurrent : (thread (Activation.push c t).2).stack.current =
      some ((thread t).stack.opener c) := by
    rw [Activation.stack_push, ActivationStack.current_push]
  refine ⟨?_, ?_, fun top htop hname => ?_, ?_⟩
  · rw [Activation.stack_push, ActivationStack.currentName_push]
  · rw [hcurrent, Option.some_inj, ActivationStack.opener_eq_iff]
  · rw [hcurrent, ActivationStack.opener_of_current htop hname]
  · obtain ⟨es, hworld⟩ := Activation.world_push c t
    rw [hworld]

theorem runsInside_call (c : Context) (t : τ) :
    RunsInside c t fun body : τ → Ending α × τ => Activation.call c body t :=
  ⟨_, enters_push c t, fun _ => rfl⟩

/-- A name that is set up is bound, and the thread enters what it is bound to. -/
theorem enters_setup {s : RegistrySettings} {name : String} {t t' : τ}
    (h : (Service.registry s).setup (some name) t = (.ok true, t')) :
    ∃ c, (thread t).world.bound.get? name = some c ∧ t' = (Activation.push c t).2 := by
  cases hc : (thread t).world.bound.get? name with
  | none => simp [Service.setup, Service.scopedContext, hc] at h
  | some c =>
    simp only [Service.setup, Service.scopedContext, hc, Prod.mk.injEq, true_and] at h
    exact ⟨c, rfl, h.symm⟩

/-- **Every way into a context leads into its namespace**: setting up a name, a scoped call under a
name, an activation, a scoped call and a snapshot.  The context itself is current inside if and only
if no other one of its name was current before. -/
theorem current_of_entering (s : RegistrySettings) (t : τ) :
    (∀ name t', (Service.registry s).setup (some name) t = (.ok true, t') →
      ∃ c, (thread t').world.bound.get? name = some c ∧ Enters (thread t) c (thread t')) ∧
    (∀ name c, (thread t).world.bound.get? name = some c → ∃ inside, RunsInside c t inside ∧
      ∀ body : τ → Ending α × τ, (Service.registry s).call (some name) body t =
        (.ok (inside body).1, (inside body).2)) ∧
    (∀ c, Enters (thread t) c (thread (Activation.push c t).2) ∧
      RunsInside c t fun body : τ → Ending α × τ => Activation.call c body t) ∧
    ∀ (a : ActivationSnapshot) (c : Context), a.context = some c →
      RunsInside c t fun body : τ → Ending α × τ => a.call body t := by
  refine ⟨fun name t' h => ?_, fun name c hc => ?_, fun c => ?_, fun a c hc => ?_⟩
  · obtain ⟨c, hc, rfl⟩ := enters_setup h
    have henters := enters_push c t
    exact ⟨c, by rw [henters.bound, hc], henters⟩
  · refine ⟨_, runsInside_call c t, fun body => ?_⟩
    simp only [Service.call, Service.scopedContext, hc]
  · exact ⟨enters_push c t, runsInside_call c t⟩
  · have hcall : (fun body : τ → Ending α × τ => a.call body t) =
        fun body => Activation.call c body t := by
      funext body
      simp only [ActivationSnapshot.call, hc]
    rw [hcall]
    exact runsInside_call c t

/-! ## Names that were replaced meanwhile -/

namespace Registry

open Activation (runHere)

variable [Plugin.Backend σ] {s : RegistrySettings} {mine : ContextId → Prop}

/-- **Whoever is inside a namespace stays with the context that they came through**, whatever calls
the registry gets, and enters the namespace through it again.  Unless the name is still bound to it,
it is disposed of. -/
theorem current_of_reentering {t : τ} (h : Coherent s mine [.idle] (thread t).world)
    {name : String} {c : Context} (hc : (thread t).world.bound.get? name = some c)
    (hcurrent : (thread t).stack.current = some c) (cs : List Call) {t' : τ}
    (hsetup : (Service.registry s).setup (some name) (runHere (callAll s cs) t).2 =
      (.ok true, t')) :
    (thread t').stack.current = some c ∧ ((thread t').world.bound.get? name = some c ∨
      ((thread t').world.life c.id).state = .disposed) := by
  obtain ⟨-, hfate⟩ := h.calls cs
  obtain ⟨c', hc', rfl⟩ := enters_setup hsetup
  obtain ⟨-, h'⟩ := h.restored (restores_callAll cs)
  rw [Activation.thread_runHere] at hc'
  have henters := enters_push c' (runHere (callAll s cs) t).2
  rw [Activation.thread_runHere] at henters
  obtain ⟨es, hworld⟩ := Activation.world_push c' (runHere (callAll s cs) t).2
  rw [Activation.thread_runHere] at hworld
  refine ⟨henters.kept c hcurrent ((h.name_of_bound hc).trans (h'.name_of_bound hc').symm), ?_⟩
  rw [hworld]
  exact hfate [] List.nil_prefix name c hc

/-- A name is replaced while a thread is inside and set up again: the thread is inside the first
context, which is disposed of, and the name is bound to the second. -/
theorem reentering_replaced :
    let s : RegistrySettings := {}
    let add (bytes : Bytes) : Call :=
      .addWithOrder "orders" [⟨"app.Order", .code, bytes⟩] .childFirst
    let start : Thread Plugin.Directory := ⟨{}, .initial ∅⟩
    let first := (runHere (callAll s [add [1]]) start).2
    let inside := ((Service.registry s).setup (some "orders") first).2
    let replaced := (runHere (callAll s [add [2]]) inside).2
    let again := (Service.registry s).setup (some "orders") replaced
    again.1 = .ok true ∧ again.2.stack.current ≠ again.2.world.bound.get? "orders" ∧
      again.2.stack.current.map Context.id = some ⟨1⟩ ∧
      (again.2.world.bound.get? "orders").map Context.id = some ⟨2⟩ ∧
      (again.2.world.life ⟨1⟩).state = .disposed := by
  intro s add start first inside replaced again
  have hcurrent : again.2.stack.current.map Context.id = some ⟨1⟩ := by decide +kernel
  have hbound : (again.2.world.bound.get? "orders").map Context.id = some ⟨2⟩ := by
    decide +kernel
  refine ⟨by decide +kernel, fun hsame => ?_, hcurrent, hbound, by decide +kernel⟩
  rw [hsame, hbound] at hcurrent
  cases hcurrent

end Registry

end Tenancy
