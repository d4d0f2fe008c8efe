import Tenancy.Proofs.Context.Visiting
import Tenancy.Registry.Basic

/-!
# Proofs/Registry/Duty — how the registry goes about its contexts

A thread that works on the registry is at any time responsible for at most one context: one that it
is about to bind, or one that it retires.  Retiring has its order: unbound, taken out of use,
drained, its plugin entries listed and removed one by one, disposed of.  Plugins are registered only
from inside the context that owns them.  This module states the order as a discipline
(`Registry.discipline`) and shows that every operation keeps it; what follows for the contexts is
said in `Proofs/Registry/Coherence`.
-/

namespace Tenancy

open Program (perform)

/-- How far a thread has come with a context. -/
inductive Stage where
  /-- The identity is taken and no context has it yet. -/
  | fresh
  /-- No name is bound to the context any more. -/
  | taken
  | closing
  | drained
  /-- The entries with these handles are still to be removed. -/
  | listed (left : List Nat)

/-- What a thread is responsible for. -/
structure Duty where
  charge : Option (ContextId × Stage) := none
  /-- The contexts that the thread has entered, the latest first. -/
  inside : List ContextId := []

namespace Duty

def idle : Duty := {}

/-- One that is responsible for a context and inside none. -/
def holds (c : ContextId) (stage : Stage) : Duty := { charge := some (c, stage) }

def enters (g : Duty) (c : ContextId) : Duty := { g with inside := c :: g.inside }

/-- Takes over a context that was bound. -/
def takes (g : Duty) (previous : Option Context) : Duty :=
  { g with charge := previous.map fun p => (p.id, .taken) }

/-- The handles of an owner's entries among those listed. -/
def handlesOf (owner : ContextId) (listed : List Plugin.Listing) : List Nat :=
  (listed.filter fun e => e.registration.owner = owner).map (·.handle)

/-- Writes down which entries of a drained context are to be removed. -/
def lists (g : Duty) (listed : List Plugin.Listing) : Duty :=
  match g.charge with
  | some (c, .drained) => { g with charge := some (c, .listed (handlesOf c listed)) }
  | _ => g

/-- Strikes the first of the handles off. -/
def strikes (g : Duty) : Duty :=
  match g.charge with
  | some (c, .listed (_ :: left)) => { g with charge := some (c, .listed left) }
  | _ => g

def allows (s : RegistrySettings) (g : Duty) : Action → Prop
  | .allocate => g.charge = none
  | .bind name c =>
    ∃ id entries order, g.charge = some (id, .fresh) ∧
      c = Registry.contextOf s id name entries order
  | .unbind _ => g.charge = none
  | .leave c => c ∈ g.inside
  | .beginClose c => g.charge = some (c, .taken)
  | .awaitDrained c => g.charge = some (c, .closing) ∧ g.inside = []
  | .finishClose c => g.charge = some (c, .listed [])
  | .register r => r.owner ∈ g.inside
  | .deregister h => ∃ c left, g.charge = some (c, .listed (h :: left))
  | .boundTo _ | .boundCount | .enter _ | .refuse _ | .isHeld _ | .entries | .report _ => True

/-- Who retires a context is the first to do so. -/
def expects : Duty → (a : Action) → a.Answer → Prop
  | _, .beginClose _, inFlight => inFlight.isSome
  | _, _, _ => True

def after (g : Duty) : (a : Action) → a.Answer → Duty
  | .allocate, id => { g with charge := some (id, .fresh) }
  | .bind .., previous => g.takes previous
  | .unbind _, previous => g.takes previous
  | .enter c, true => g.enters c
  | .leave c, _ => { g with inside := g.inside.erase c }
  | .beginClose c, _ => { g with charge := some (c, .closing) }
  | .awaitDrained c, _ => { g with charge := some (c, .drained) }
  | .entries, listed => g.lists listed
  | .deregister _, _ => g.strikes
  | .finishClose _, _ => { g with charge := none }
  | _, _ => g

end Duty

/-- The actions that leave the names alone. -/
def Action.IsQuiet : Action → Prop
  | .allocate | .bind .. | .unbind _ => False
  | _ => True

namespace Registry

/-- **The order in which the registry goes about its contexts.** -/
def discipline (s : RegistrySettings) : Discipline Duty where
  allows := Duty.allows s
  expects := Duty.expects
  after := Duty.after

/-- The same for a thread that leaves the names alone. -/
abbrev quietly (s : RegistrySettings) : Discipline Duty :=
  (discipline s).restrict Action.IsQuiet

end Registry

/-- A thread that leaves the names alone may visit contexts and register their plugins. -/
theorem Registry.hosts_quietly (s : RegistrySettings) :
    (Registry.quietly s).Hosts Duty.enters where
  report _ _ := ⟨⟨trivial, trivial⟩, fun _ => rfl⟩
  refuse _ _ := ⟨⟨trivial, trivial⟩, fun _ => rfl⟩
  isHeld _ _ := ⟨⟨trivial, trivial⟩, fun _ => rfl⟩
  boundTo _ _ := ⟨⟨trivial, trivial⟩, fun _ => rfl⟩
  enter _ _ := ⟨⟨trivial, trivial⟩, rfl, rfl⟩
  leave g _ := ⟨⟨trivial, List.mem_cons_self⟩,
    fun _ => congrArg (fun l => { g with inside := l }) (List.erase_cons_head ..)⟩
  register _ _ := ⟨⟨trivial, List.mem_cons_self⟩, fun _ => rfl⟩

/-! ## The bridge -/

namespace Bridge

open Registry (quietly hosts_quietly)

variable {s : RegistrySettings}

theorem restores_report {g : Duty} (e : Event) : (perform (.report e)).Restores (quietly s) g :=
  (hosts_quietly s).restores_report e

/-- The entries of an owner are removed in the order in which they were listed. -/
theorem keeps_removeOwned (owner : ContextId) (name : String) (listed : List Plugin.Listing) :
    (removeOwned owner name listed).Keeps (quietly s) (fun g _ => g = .holds owner (.listed []))
      (.holds owner (.listed (Duty.handlesOf owner listed))) := by
  induction listed with
  | nil => exact .done rfl
  | cons e es ih =>
    rw [removeOwned]
    split
    · rename_i he
      have hhandles : Duty.handlesOf owner (e :: es) = e.handle :: Duty.handlesOf owner es := by
        rw [Duty.handlesOf, List.filter_cons_of_pos (by simpa using he)]
        rfl
      rw [hhandles]
      refine .perform_bind ⟨trivial, owner, _, rfl⟩ fun answer _ => ?_
      cases answer with
      | ok _ => exact (restores_report _).keeps_bind fun _ => ih.bind fun _ _ hg => .done hg
      | error _ => exact (restores_report _).keeps_bind fun _ => ih
    · rename_i he
      have hhandles : Duty.handlesOf owner (e :: es) = Duty.handlesOf owner es := by
        rw [Duty.handlesOf, List.filter_cons_of_neg (by simpa using he)]
        rfl
      rw [hhandles]
      exact ih

theorem keeps_cleanup (owner : ContextId) (name : String) :
    (cleanup owner name).Keeps (quietly s) (fun g _ => g = .holds owner (.listed []))
      (.holds owner .drained) :=
  .perform_bind ⟨trivial, trivial⟩ fun listed _ => keeps_removeOwned owner name listed

end Bridge

/-! ## The registry -/

namespace Context

open Registry (quietly)

variable {s : RegistrySettings}

theorem keeps_beginShutdown (c : Context) :
    c.beginShutdown.Keeps (quietly s) (fun g _ => g = .holds c.id .drained)
      (.holds c.id .taken) := by
  refine .perform_bind ⟨trivial, rfl⟩ fun inFlight hsome => ?_
  cases inFlight with
  | none => cases hsome
  | some n =>
    exact .perform_bind ⟨trivial, trivial⟩ fun _ _ =>
      .perform_bind ⟨trivial, rfl, rfl⟩ fun _ _ => .done rfl

theorem keeps_finishShutdown (c : Context) :
    c.finishShutdown.Keeps (quietly s) (fun g _ => g = .idle) (.holds c.id (.listed [])) := by
  refine .perform_bind ⟨trivial, rfl⟩ fun first _ => ?_
  cases first with
  | true => exact .perform_bind ⟨trivial, trivial⟩ fun _ _ => .done rfl
  | false => exact .done rfl

end Context

namespace Registry

variable {s : RegistrySettings}

/-- **Whoever took a context retires it, and is then responsible for nothing.** -/
theorem keeps_retire (c : Context) :
    (retire c).Keeps (quietly s) (fun g _ => g = .idle) (.holds c.id .taken) := by
  refine c.keeps_beginShutdown.bind fun g _ hg => ?_
  rw [hg]
  refine (Bridge.keeps_cleanup c.id c.name).bind fun g _ hg => ?_
  rw [hg]
  refine c.keeps_finishShutdown.bind fun g _ hg => ?_
  rw [hg]
  exact .perform_bind ⟨trivial, trivial⟩ fun _ _ => .done rfl

/-- Retires the context that a name was bound to before. -/
def displace (previous : Option Context) : Program Unit :=
  previous.elim (pure ()) retire

/-- What is left to do after a name has been bound: the context that was bound to it is retired, and
the plugins of the new one are registered. -/
def settle (s : RegistrySettings) (previous : Option Context) (c : Context) : Program Unit := do
  displace previous
  let _ ← Bridge.enlist s.bridge none c
  pure ()

/-- Installing, action by action. -/
theorem install_eq (s : RegistrySettings) (name : String) (entries : ArtifactMap)
    (order : ResolutionOrder) :
    ∃ e : ContextId → Option Context → Event,
      install s name entries order = .act .allocate fun id =>
        .act (.bind name (contextOf s id name entries order)) fun previous =>
          .act (.report (e id previous)) fun _ =>
            settle s previous (contextOf s id name entries order) := by
  refine ⟨_, congrArg _ (funext fun id => congrArg _ (funext fun previous =>
    congrArg _ (funext fun _ => ?_)))⟩
  cases previous <;> rfl

theorem keeps_displace (previous : Option Context) :
    (displace previous).Keeps (quietly s) (fun g _ => g = .idle) (Duty.idle.takes previous) := by
  cases previous with
  | none => exact .done rfl
  | some p => exact keeps_retire p

theorem keeps_settle (previous : Option Context) (c : Context) :
    (settle s previous c).Keeps (quietly s) (fun g _ => g = .idle)
      (Duty.idle.takes previous) := by
  refine (keeps_displace previous).bind fun g _ hg => ?_
  rw [hg]
  exact (Bridge.restores_enlist (hosts_quietly s) s.bridge).bind fun _ => .done _

theorem restores_install (name : String) (entries : ArtifactMap) (order : ResolutionOrder) :
    (install s name entries order).Restores (discipline s) .idle := by
  obtain ⟨e, he⟩ := install_eq s name entries order
  rw [he]
  refine ⟨rfl, fun id _ => ⟨⟨id, entries, order, rfl, rfl⟩, fun previous _ => ⟨trivial, ?_⟩⟩⟩
  exact fun _ _ => (keeps_settle previous (contextOf s id name entries order)).widen

theorem restores_reportAll (es : List Event) : (reportAll es).Restores (discipline s) .idle := by
  induction es with
  | nil => exact .done _
  | cons e es ih => exact .perform_bind trivial fun _ _ => ih

theorem restores_extractReporting (ds : List Definition) :
    (extractReporting s ds).Restores (discipline s) .idle :=
  (restores_reportAll _).bind fun _ => .done _

theorem restores_addWithOrder (name : String) (ds : List Definition) (order : ResolutionOrder) :
    (addWithOrder s name ds order).Restores (discipline s) .idle := by
  rw [addWithOrder]
  split
  · exact .done _
  · refine (restores_extractReporting ds).bind fun extracted => ?_
    cases extracted with
    | error e => exact .done _
    | ok entries => exact (restores_install name entries order).bind fun _ => .done _

theorem restores_reconcile (name : String) (entries : ArtifactMap) (order : ResolutionOrder) :
    (reconcile s name entries order).Restores (discipline s) .idle := by
  refine .perform_bind trivial fun bound _ => ?_
  split
  · exact .perform_bind trivial fun _ _ => .done rfl
  · exact (restores_install name entries order).bind fun _ => .done _

theorem restores_apply (t : Files.Tree) (c : NamespaceConfig) :
    (apply s t c).Restores (discipline s) .idle := by
  rw [apply]
  split
  · exact .done _
  · split
    · exact .done _
    · refine (restores_extractReporting _).bind fun extracted => ?_
      cases extracted with
      | error e => exact .done _
      | ok entries => exact (restores_reconcile c.name entries _).bind fun _ => .done _

/-- Removing, action by action. -/
theorem remove_eq (name : String) :
    ∃ e : Context → Event,
      remove name = .act (.unbind name) fun removed =>
        removed.elim (.done false) fun c =>
          .act (.report (e c)) fun _ => retire c >>= fun _ => .done true := by
  refine ⟨fun c => ⟨.info, origin, "Namespace removed",
    [("namespace", .text name), ("context", .text c.id.text)]⟩, ?_⟩
  exact congrArg (Program.act (.unbind name)) (funext fun removed => by cases removed <;> rfl)

theorem restores_remove (name : String) : (remove name).Restores (discipline s) .idle := by
  obtain ⟨e, he⟩ := remove_eq name
  rw [he]
  refine ⟨rfl, fun removed _ => ?_⟩
  cases removed with
  | none => exact .done rfl
  | some c => exact ⟨trivial, fun _ _ => (keeps_retire c).widen.bind fun g _ hg => .done hg⟩

end Registry

end Tenancy
