import Tenancy.Proofs.Service.Brackets

/-!
# Proofs/Service/Scopes — programs that activate in scopes alone

    stack after  =  stack before

A program calls bodies in scopes, of contexts, tags and snapshots, and holds guards that it closes
in their turn; inside it does the same, looks around, has the world changed, and ends early, by a
value (an error is one) or by a panic (`Scoped`).  However it ends, the stack is as it was, counts
included, and every body began in the namespace of its scope (`Scoped.run_restores_stack`).
-/

namespace Tenancy

variable {σ τ α : Type}

open Threaded (thread)

/-! ## Guards -/

namespace Activation

variable [Threaded σ τ]

/-- **Closes a guard when a body has ended.**  After a panic it is dropped; otherwise it is dropped
or exited, as the body's value says, and exiting reports a failure instead of panicking. -/
def closeGuard (name : String) (exits : α → Bool) :
    Ending α → τ → Ending (α × Except ActivationError Unit) × τ
  | .panicked m, t => dropGuard name (.panicked m) t
  | .returned x, t =>
    if exits x then
      match pop name t with
      | (.ok _, t) => (.returned (x, .ok ()), t)
      | (.error e, t) => (.returned (x, .error e), t)
    else dropGuard name (.returned (x, .ok ())) t

end Activation

/-- The namespace of a scope under a tag, if the scope has one. -/
def Service.scopeName (s : Service) (w : World σ) (tag : Option String) : Option String :=
  match s, tag with
  | .off, _ => none
  | .registry _, some name => some name
  | .registry _, none => if w.bound.contains defaultName then some defaultName else none

/-- It is that of the context that the tag stands for. -/
theorem Service.scopeName_eq {s : Service} {w : World σ} {tag : Option String} (hw : w.Tidy)
    {found : Option Context} (h : s.scopedContext w tag = .ok found) :
    s.scopeName w tag = found.map Context.name := by
  cases s with
  | off =>
    cases h
    rfl
  | registry r =>
    cases tag with
    | some name =>
      simp only [scopedContext] at h
      split at h
      · rename_i c hc
        cases h
        exact congrArg some (hw.named name c hc).symm
      · cases h
    | none =>
      cases h
      rw [scopeName, Table.contains]
      cases hc : w.bound.get? defaultName with
      | none => rfl
      | some c => exact congrArg some (hw.named defaultName c hc).symm

/-! ## What is seen when bodies begin -/

/-- A scope whose body begins: its namespace, if it has one, the stack around the scope and the
stack that the body begins with. -/
structure Opening where
  name : Option String
  around : ActivationStack
  inside : ActivationStack

/-- The body begins in the namespace of its scope, or where the scope has none, as it is outside. -/
def Opening.Fits (o : Opening) : Prop :=
  match o.name with
  | some name => o.inside.currentName = some name
  | none => o.inside = o.around

/-- A thread, and the scopes that opened there, the latest first. -/
structure Watched (σ : Type) where
  thread : Thread σ
  openings : List Opening := []

namespace Watched

instance : Threaded σ (Watched σ) where
  thread := Watched.thread
  withThread t i := { i with thread := t }
  thread_withThread _ _ := rfl

/-- Notes that the body of a scope begins. -/
def opened (name : Option String) (around : ActivationStack) (i : Watched σ) : Watched σ :=
  { i with openings := ⟨name, around, i.thread.stack⟩ :: i.openings }

end Watched

/-! ## Programs -/

/-- **A program that activates in scopes alone.** -/
inductive Scoped (σ : Type) : Type → Type 1
  /-- Ends with a value.  Whoever goes on may take one that is an error for the end. -/
  | done {α : Type} (x : α) : Scoped σ α
  | panic {α : Type} (message : String) : Scoped σ α
  | bind {α β : Type} (p : Scoped σ α) (f : α → Scoped σ β) : Scoped σ β
  /-- Looks at the thread and at the world. -/
  | look : Scoped σ (Thread σ)
  /-- The world changes, by this thread or by others. -/
  | change {α : Type} (f : World σ → α × World σ) (hf : ∀ w, w.Tidy → (f w).2.Tidy) : Scoped σ α
  /-- A scoped call on a context. -/
  | within {α : Type} (c : Context) (body : Scoped σ α) : Scoped σ α
  /-- A scoped call under a tag. -/
  | tagged {α : Type} (s : Service) (tag : Option String) (body : Scoped σ α) :
      Scoped σ (Except NamespaceError α)
  /-- A call of a snapshot. -/
  | handedOver {α : Type} (a : ActivationSnapshot) (body : Scoped σ α) : Scoped σ α
  /-- A guard is held and then closed. -/
  | guarded {α : Type} (c : Context) (exits : α → Bool) (body : Scoped σ α) :
      Scoped σ (α × Except ActivationError Unit)
  /-- A panic inside is caught. -/
  | caught {α : Type} (body : Scoped σ α) : Scoped σ (Ending α)

namespace Scoped

/-- Calls on a registry. -/
def calls [Plugin.Backend σ] (s : RegistrySettings) (cs : List Registry.Call) :
    Scoped σ (List (Except NamespaceError Bool)) :=
  .change (fun w => (Registry.callAll s cs).run w) fun _ hw => Registry.tidy_callAll hw cs

/-- Runs a program and notes the scopes that open. -/
def run : {α : Type} → Scoped σ α → Watched σ → Ending α × Watched σ
  | _, .done x, i => (.returned x, i)
  | _, .panic m, i => (.panicked m, i)
  | _, .bind p f, i =>
    match p.run i with
    | (.returned x, i) => (f x).run i
    | (.panicked m, i) => (.panicked m, i)
  | _, .look, i => (.returned i.thread, i)
  | _, .change f _, i =>
    (.returned (f i.thread.world).1,
      { i with thread := { i.thread with world := (f i.thread.world).2 } })
  | _, .within c body, i =>
    Activation.call c (fun j => body.run (j.opened (some c.name) i.thread.stack)) i
  | _, .tagged s tag body, i =>
    match s.call tag
      (fun j => body.run (j.opened (s.scopeName i.thread.world tag) i.thread.stack)) i with
    | (.ok (.returned x), i) => (.returned (.ok x), i)
    | (.ok (.panicked m), i) => (.panicked m, i)
    | (.error e, i) => (.returned (.error e), i)
  | _, .handedOver a body, i => a.call (fun j => body.run (j.opened a.name i.thread.stack)) i
  | _, .guarded c exits body, i =>
    let (ending, j) := body.run ((Activation.push c i).2.opened (some c.name) i.thread.stack)
    Activation.closeGuard c.name exits ending j
  | _, .caught body, i => (.returned (body.run i).1, (body.run i).2)

end Scoped

/-! ## Closing -/

namespace Activation

variable {i j : Watched σ} {name : String} {n : Nat} {k : ActivationStack}

/-- What is left when an activation has ended and given a stack back. -/
structure Ended (i : Watched σ) (k : ActivationStack) (j : Watched σ) : Prop where
  stack : j.thread.stack = k
  tidy : i.thread.world.Tidy → j.thread.world.Tidy
  openings : j.openings = i.openings

theorem ended_pop (h : i.thread.stack.pop name = .ok (n, k)) :
    (pop name i).1 = .ok n ∧ Ended i k (pop name i).2 := by
  have hpop := pop_eq name i
  have hstack : (thread i).stack.pop name = .ok (n, k) := h
  rw [hstack] at hpop
  obtain ⟨hanswer, hk, es, hworld⟩ := hpop
  refine ⟨hanswer, hk, fun hw => ?_, ?_⟩
  · show (thread (pop name i).2).world.Tidy
    rw [hworld]
    exact hw.events es
  · unfold pop
    rw [hstack]
    rfl

/-- A guard that is dropped in its turn ends its activation and lets the body end as it does. -/
theorem ended_dropGuard (h : i.thread.stack.pop name = .ok (n, k)) (ending : Ending α) :
    (dropGuard name ending i).1 = ending ∧ Ended i k (dropGuard name ending i).2 := by
  obtain ⟨hanswer, hended⟩ := ended_pop h
  unfold dropGuard
  generalize pop name i = popped at hanswer hended
  obtain ⟨x, j⟩ := popped
  obtain rfl : x = .ok n := hanswer
  exact ⟨rfl, hended⟩

/-- So is one that is closed in its turn, and exiting reports no failure. -/
theorem ended_closeGuard (h : i.thread.stack.pop name = .ok (n, k)) (exits : α → Bool)
    (ending : Ending α) :
    (∀ x e, (closeGuard name exits ending i).1 = .returned (x, e) → e = .ok ()) ∧
      Ended i k (closeGuard name exits ending i).2 := by
  cases ending with
  | panicked m =>
    obtain ⟨hending, hended⟩ := ended_dropGuard h
      (.panicked m : Ending (α × Except ActivationError Unit))
    refine ⟨fun x e he => ?_, hended⟩
    rw [closeGuard, hending] at he
    cases he
  | returned x =>
    rw [closeGuard]
    split
    · obtain ⟨hanswer, hended⟩ := ended_pop h
      generalize pop name i = popped at hanswer hended
      obtain ⟨y, j⟩ := popped
      obtain rfl : y = .ok n := hanswer
      refine ⟨fun x' e he => ?_, hended⟩
      cases he
      rfl
    · obtain ⟨hending, hended⟩ := ended_dropGuard h (.returned (x, (.ok () : Except _ Unit)))
      refine ⟨fun x' e he => ?_, hended⟩
      rw [hending] at he
      cases he
      rfl

end Activation

/-! ## What programs leave -/

/-- **What a program leaves as it found it**: the stack, and the order among the names.  Every scope
that it opened fits. -/
structure Watched.Leaves (i j : Watched σ) : Prop where
  stack : j.thread.stack = i.thread.stack
  tidy : j.thread.world.Tidy
  openings : ∀ o ∈ j.openings, o ∈ i.openings ∨ o.Fits

namespace Watched.Leaves

variable {i j k : Watched σ} {name : Option String} {c : Context}

theorem refl (hw : i.thread.world.Tidy) : Leaves i i :=
  ⟨rfl, hw, fun _ ho => .inl ho⟩

theorem trans (h : Leaves i j) (h' : Leaves j k) : Leaves i k where
  stack := h'.stack.trans h.stack
  tidy := h'.tidy
  openings o ho := (h'.openings o ho).elim (h.openings o) .inr

/-- Around a body that begins as it should. -/
theorem opened {around : ActivationStack} (hfits : Opening.Fits ⟨name, around, i.thread.stack⟩)
    (h : Leaves (i.opened name around) j) : Leaves i j where
  stack := h.stack
  tidy := h.tidy
  openings o ho := by
    rcases h.openings o ho with ho | ho
    · rcases List.mem_cons.1 ho with rfl | ho
      · exact .inr hfits
      · exact .inl ho
    · exact .inr ho

/-- **Around an activation** whose body leaves the stack as it began. -/
theorem activated (hs : i.thread.stack.Arises)
    (h : Leaves ((Activation.push c i).2.opened (some c.name) i.thread.stack) j) :
    ∃ n, j.thread.stack.pop c.name = .ok (n, i.thread.stack) ∧
      ∀ k, Activation.Ended j i.thread.stack k → Leaves i k := by
  have hpush : (Activation.push c i).2.thread.stack = (i.thread.stack.push c).2 :=
    Activation.stack_push c i
  have hbody : Leaves (Activation.push c i).2 j := by
    refine h.opened ?_
    show (Activation.push c i).2.thread.stack.currentName = some c.name
    rw [hpush, ActivationStack.currentName_push]
  obtain ⟨n, hn⟩ := hs.pop_push c
  refine ⟨n, by rw [hbody.stack, hpush, hn], fun k hk => ⟨hk.stack, hk.tidy h.tidy, ?_⟩⟩
  rw [hk.openings]
  exact hbody.openings

end Watched.Leaves

namespace Scoped

variable {i : Watched σ} {c : Context}

open Watched (Leaves)

/-- A body that leaves the stack as it found it, whatever it found. -/
def Tidies (body : Scoped σ α) : Prop :=
  ∀ {i : Watched σ}, i.thread.stack.Arises → i.thread.world.Tidy → Leaves i (body.run i).2

theorem leaves_call {body : Scoped σ α} (hbody : body.Tidies) (hs : i.thread.stack.Arises)
    (hw : i.thread.world.Tidy) :
    Leaves i (Activation.call c
      (fun j => body.run (j.opened (some c.name) i.thread.stack)) i).2 := by
  have hstart : ((Activation.push c i).2.opened (some c.name) i.thread.stack).thread.stack.Arises :=
    Activation.arises_push (t := i) hs c
  obtain ⟨n, hn, hleaves⟩ := Leaves.activated hs (hbody hstart (Activation.tidy_push (t := i) hw c))
  exact hleaves _ (Activation.ended_dropGuard hn _).2

theorem leaves_guarded {body : Scoped σ α} (hbody : body.Tidies) (exits : α → Bool)
    (hs : i.thread.stack.Arises) (hw : i.thread.world.Tidy) :
    (∀ x e, ((guarded c exits body).run i).1 = .returned (x, e) → e = .ok ()) ∧
      Leaves i ((guarded c exits body).run i).2 := by
  have hstart : ((Activation.push c i).2.opened (some c.name) i.thread.stack).thread.stack.Arises :=
    Activation.arises_push (t := i) hs c
  obtain ⟨n, hn, hleaves⟩ := Leaves.activated hs (hbody hstart (Activation.tidy_push (t := i) hw c))
  obtain ⟨hexit, hended⟩ := Activation.ended_closeGuard hn exits
    (body.run ((Activation.push c i).2.opened (some c.name) i.thread.stack)).1
  exact ⟨hexit, hleaves _ hended⟩

/-- The body of a scope without a namespace begins with the stack as it is. -/
theorem leaves_opened_none {body : Scoped σ α} (hbody : body.Tidies) (hs : i.thread.stack.Arises)
    (hw : i.thread.world.Tidy) : Leaves i (body.run (i.opened none i.thread.stack)).2 :=
  Leaves.opened (show Opening.Fits ⟨none, _, _⟩ from rfl)
    (hbody (i := i.opened none i.thread.stack) hs hw)

theorem leaves_tagged {body : Scoped σ α} (hbody : body.Tidies) (s : Service)
    (tag : Option String) (hs : i.thread.stack.Arises) (hw : i.thread.world.Tidy) :
    Leaves i ((tagged s tag body).run i).2 := by
  have hrun : ((tagged s tag body).run i).2 = (s.call tag
      (fun j => body.run (j.opened (s.scopeName i.thread.world tag) i.thread.stack)) i).2 := by
    rw [run]
    split <;> rename_i h <;> rw [h]
  have hthread : thread i = i.thread := rfl
  rw [hrun, Service.call, hthread]
  split
  · rename_i c hc
    rw [Service.scopeName_eq hw hc]
    exact leaves_call hbody hs hw
  · rename_i hc
    rw [Service.scopeName_eq hw hc]
    exact leaves_opened_none hbody hs hw
  · exact .refl hw

theorem leaves_handedOver {body : Scoped σ α} (hbody : body.Tidies) (a : ActivationSnapshot)
    (hs : i.thread.stack.Arises) (hw : i.thread.world.Tidy) :
    Leaves i ((handedOver a body).run i).2 := by
  rw [run, ActivationSnapshot.call, ActivationSnapshot.name]
  cases a.context with
  | some c => exact leaves_call hbody hs hw
  | none => exact leaves_opened_none hbody hs hw

/-- **Every program leaves the stack as it found it.** -/
theorem tidies (p : Scoped σ α) : p.Tidies := by
  intro i hs hw
  induction p generalizing i with
  | done x => exact .refl hw
  | panic m => exact .refl hw
  | bind p f ihp ihf =>
    have hfirst := ihp hs hw
    rw [run]
    generalize p.run i = r at hfirst
    obtain ⟨ending, j⟩ := r
    cases ending with
    | panicked m => exact hfirst
    | returned x => exact hfirst.trans (ihf x (hfirst.stack ▸ hs) hfirst.tidy)
  | look => exact .refl hw
  | change f hf => exact ⟨rfl, hf _ hw, fun _ ho => .inl ho⟩
  | within c body ih => exact leaves_call ih hs hw
  | tagged s tag body ih => exact leaves_tagged ih s tag hs hw
  | handedOver a body ih => exact leaves_handedOver ih a hs hw
  | guarded c exits body ih => exact (leaves_guarded ih exits hs hw).2
  | caught body ih => exact ih hs hw

/-- **However a program ends, the stack is as it was before it.**  Every body that it came to began
in the namespace of its scope, or as it was outside where the scope has none; guards that are exited
report no failure; and a scoped call under an unknown name does nothing but to answer so. -/
theorem run_restores_stack (p : Scoped σ α) {t : Thread σ} (hs : t.stack.Arises)
    (hw : t.world.Tidy) :
    let r := p.run ⟨t, []⟩
    r.2.thread.stack = t.stack ∧
    (∀ o ∈ r.2.openings, match o.name with
      | some name => o.inside.currentName = some name
      | none => o.inside = o.around) ∧
    (∀ c exits (body : Scoped σ α) x e,
      ((guarded c exits body).run ⟨t, []⟩).1 = .returned (x, e) → e = .ok ()) ∧
    ∀ (s : RegistrySettings) name (body : Scoped σ α), t.world.bound.get? name = none →
      (tagged (.registry s) (some name) body).run ⟨t, []⟩ =
        (.returned (.error (.unknownNamespace name)), ⟨t, []⟩) := by
  have hleaves := p.tidies (i := ⟨t, []⟩) hs hw
  refine ⟨hleaves.stack, fun o ho => ?_, fun c exits body => ?_, fun s name body hname => ?_⟩
  · exact (hleaves.openings o ho).resolve_left List.not_mem_nil
  · exact (leaves_guarded (i := ⟨t, []⟩) body.tidies exits hs hw).1
  · have hunknown : (Service.registry s).scopedContext t.world (some name) =
        .error (.unknownNamespace name) := by
      simp only [Service.scopedContext, hname]
    have hthread : thread (⟨t, []⟩ : Watched σ) = t := rfl
    rw [run, Service.call, hthread, hunknown]

/-- A thread is inside a namespace; in a scope of another one it makes a call under the name of the
first, which removes it and panics. -/
theorem run_restores_stack_removed :
    let c (name : String) : Context := Registry.contextOf {} ⟨7⟩ name ∅ .childFirst
    let add : Registry.Call := .addWithOrder "orders" [⟨"app.Order", .code, [1]⟩] .childFirst
    let t : Thread Plugin.Directory :=
      ⟨(({} : ActivationStack).push (c "orders")).2,
        ((Registry.callAll {} [add]).run (World.initial ∅)).2⟩
    let removing : Scoped Plugin.Directory Unit :=
      .bind (calls {} [.remove "orders"]) fun _ => .panic "gone"
    let p := caught (within (c "bills") (tagged (.registry {}) (some "orders") removing))
    let r := p.run ⟨t, []⟩
    t.stack.Arises ∧ t.world.Tidy ∧ r.1 = .returned (.panicked "gone") ∧
      r.2.openings.map (·.name) = [some "orders", some "bills"] ∧ r.2.thread.stack = t.stack := by
  intro c add t removing p r
  have hs : t.stack.Arises := .pushed .empty (c "orders")
  have hw : t.world.Tidy := Registry.tidy_callAll (World.fresh_initial ∅).tidy [add]
  exact ⟨hs, hw, by decide +kernel, by decide +kernel, (p.run_restores_stack hs hw).1⟩

end Scoped

end Tenancy
