import Tenancy.Context.Layer
import Tenancy.Context.Lifecycle
import Tenancy.Logging.Event
import Tenancy.Plugin.Registration

/-!
# World — the shared state and the actions on it

The world is what all threads share: the lifecycles of the contexts, the names that are bound, the
plugin registry and what was reported. An action is one change of it that no other thread can see
half done; `perform` says what each action does and answers. The only action that can have to wait
is `awaitDrained`.
-/

namespace Tenancy

structure World (σ : Type) where
  /-- The number of the next source. -/
  nextId : Nat
  lives : Table ContextId Lifecycle
  bound : Table String Context
  /-- The flag that the default namespace is bound. -/
  defaultDefined : Bool
  plugins : σ
  /-- The sources that nobody holds any more; a delegate among them is no delegate. -/
  gone : List ContextId
  /-- What was reported, the latest first. -/
  events : List Event

namespace World

def initial {σ : Type} (plugins : σ) : World σ :=
  ⟨1, ∅, ∅, false, plugins, [], []⟩

variable {σ : Type}

/-- The lifecycle of a context; one that nothing has happened to is active. -/
def life (w : World σ) (c : ContextId) : Lifecycle :=
  (w.lives.get? c).getD {}

def withLife (w : World σ) (c : ContextId) (l : Lifecycle) : World σ :=
  { w with lives := w.lives.insert c l }

@[simp] theorem life_withLife_self (w : World σ) (c : ContextId) (l : Lifecycle) :
    (w.withLife c l).life c = l := by
  simp [life, withLife]

theorem life_withLife_ne (w : World σ) {c c' : ContextId} (l : Lifecycle) (h : c' ≠ c) :
    (w.withLife c l).life c' = w.life c' := by
  simp [life, withLife, Table.get?_insert_ne w.lives l h]

theorem life_withLife (w : World σ) (c c' : ContextId) (l : Lifecycle) :
    (w.withLife c l).life c' = if c' = c then l else w.life c' := by
  split
  · rename_i h; rw [h, life_withLife_self]
  · rename_i h; exact life_withLife_ne w l h

end World

/-! ## Actions -/

/-- The name whose binding a flag tells of. -/
def defaultName : String := "default"

inductive Action where
  /-- Takes the next identity. -/
  | allocate
  /-- Binds a name to a context and gives the context it was bound to. -/
  | bind (name : String) (c : Context)
  /-- Unbinds a name and gives the context it was bound to. -/
  | unbind (name : String)
  | boundTo (name : String)
  /-- How many names are bound. -/
  | boundCount
  | enter (c : ContextId)
  | leave (c : ContextId)
  | refuse (c : ContextId)
  | beginClose (c : ContextId)
  | awaitDrained (c : ContextId)
  | finishClose (c : ContextId)
  | isHeld (c : ContextId)
  | register (r : Plugin.Registration)
  | deregister (handle : Nat)
  | entries
  | report (e : Event)

/-- What an action answers. -/
abbrev Action.Answer : Action → Type
  | .allocate => ContextId
  | .bind .. => Option Context
  | .unbind _ => Option Context
  | .boundTo _ => Option Context
  | .boundCount => Nat
  | .enter _ => Bool
  | .leave _ => Unit
  | .refuse _ => Bool
  | .beginClose _ => Option Nat
  | .awaitDrained _ => Unit
  | .finishClose _ => Bool
  | .isHeld _ => Bool
  | .register _ => Except Plugin.Fault Nat
  | .deregister _ => Except Plugin.Fault Unit
  | .entries => List Plugin.Listing
  | .report _ => Unit

namespace World

variable {σ : Type} [Plugin.Backend σ]

/-- **What an action does and answers.** The default flag changes together with the binding. -/
def perform (w : World σ) : (a : Action) → a.Answer × World σ
  | .allocate => (⟨w.nextId⟩, { w with nextId := w.nextId + 1 })
  | .bind name c =>
    (w.bound.get? name,
      { w with
        bound := w.bound.insert name c
        defaultDefined := if name = defaultName then true else w.defaultDefined })
  | .unbind name =>
    (w.bound.get? name,
      { w with
        bound := w.bound.erase name
        defaultDefined := if name = defaultName && (w.bound.get? name).isSome then false
          else w.defaultDefined })
  | .boundTo name => (w.bound.get? name, w)
  | .boundCount => (w.bound.size, w)
  | .enter c => ((w.life c).enter.1, w.withLife c (w.life c).enter.2)
  | .leave c => ((), w.withLife c (w.life c).leave)
  | .refuse c => ((w.life c).refuse.1, w.withLife c (w.life c).refuse.2)
  | .beginClose c => ((w.life c).beginClose.1, w.withLife c (w.life c).beginClose.2)
  | .awaitDrained _ => ((), w)
  | .finishClose c => ((w.life c).finishClose.1, w.withLife c (w.life c).finishClose.2)
  | .isHeld c => (!w.gone.contains c, w)
  | .register r =>
    ((Plugin.Backend.register r w.plugins).1,
      { w with plugins := (Plugin.Backend.register r w.plugins).2 })
  | .deregister h =>
    ((Plugin.Backend.deregister h w.plugins).1,
      { w with plugins := (Plugin.Backend.deregister h w.plugins).2 })
  | .entries =>
    ((Plugin.Backend.entries w.plugins).1,
      { w with plugins := (Plugin.Backend.entries w.plugins).2 })
  | .report e => ((), { w with events := e :: w.events })

/-- The action need not wait. -/
def Enabled (w : World σ) : Action → Prop
  | .awaitDrained c => (w.life c).inFlight = 0
  | _ => True

instance (w : World σ) (a : Action) : Decidable (w.Enabled a) := by
  cases a <;> simp only [Enabled] <;> infer_instance

end World

end Tenancy
