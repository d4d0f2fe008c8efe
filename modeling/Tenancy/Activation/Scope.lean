import Tenancy.Activation.Stack
import Tenancy.World

/-!
# Activation/Scope — activations that end with a body

A thread has a stack of activations and sees the shared world. A scoped call activates a context,
runs a body and ends the activation however the body ends. A guard ends an activation when it is
closed or dropped; it remembers a name and not a place on the stack, so one that is closed out of
turn fails.
-/

namespace Tenancy

structure Thread (σ : Type) where
  stack : ActivationStack
  world : World σ

/-- A state that a thread is part of. -/
class Threaded (σ : outParam Type) (τ : Type) where
  thread : τ → Thread σ
  withThread : Thread σ → τ → τ
  thread_withThread (t : Thread σ) (s : τ) : thread (withThread t s) = t

instance (σ : Type) : Threaded σ (Thread σ) where
  thread := id
  withThread t _ := t
  thread_withThread _ _ := rfl

/-- How a body ends: with a value, or by a panic that somebody further out may catch. -/
inductive Ending (α : Type) where
  | returned (a : α)
  | panicked (message : String)
  deriving Repr, DecidableEq

namespace Activation

def origin : String := "nsload::activation"

variable {σ τ α : Type} [Threaded σ τ]

open Threaded (thread withThread)

def report (e : Event) (s : τ) : τ :=
  let t := thread s
  withThread { t with world := { t.world with events := e :: t.world.events } } s

def withStack (k : ActivationStack) (s : τ) : τ :=
  withThread { thread s with stack := k } s

/-! ## Single activations -/

def activated (name : String) (count : Nat) : Event :=
  ⟨.trace, origin, ">> activate", [("namespace", .text name), ("count", .number count)]⟩

def deactivated (name : String) (remaining : Nat) : Event :=
  ⟨.trace, origin, "<< deactivate",
    [("namespace", .text name), ("remaining", .number remaining)]⟩

def push (c : Context) (s : τ) : Nat × τ :=
  let (count, k) := (thread s).stack.push c
  (count, report (activated c.name count) (withStack k s))

/-- Ends an activation; a failure changes nothing. -/
def pop (name : String) (s : τ) : Except ActivationError Nat × τ :=
  match (thread s).stack.pop name with
  | .ok (remaining, k) => (.ok remaining, report (deactivated name remaining) (withStack k s))
  | .error e => (.error e, s)

/-- Ends every activation; the number of runs there were. -/
def clear (s : τ) : Nat × τ :=
  let frames := (thread s).stack.depth
  let cleared := withStack {} s
  if frames = 0 then (0, cleared)
  else
    (frames, report ⟨.warn, origin, "Cleared leftover namespace activation",
      [("frames", .number frames)]⟩ cleared)

/-! ## Guards and scoped calls -/

/-- Drops a guard after a body has ended. A guard that is out of turn panics, unless a panic is
under way already. -/
def dropGuard (name : String) (body : Ending α) (s : τ) : Ending α × τ :=
  match pop name s, body with
  | (.ok _, s), body => (body, s)
  | (.error e, s), .returned _ => (.panicked e.message, s)
  | (.error e, s), .panicked m =>
    (.panicked m, report ⟨.error, origin, "Activation stack corrupted while unwinding",
      [("error", .text e.message)]⟩ s)

/-- **Runs a body while a context is active.** -/
def call (c : Context) (body : τ → Ending α × τ) (s : τ) : Ending α × τ :=
  let (ending, s) := body (push c s).2
  dropGuard c.name ending s

end Activation

/-! ## Snapshots -/

/-- What is active, to be active again elsewhere. -/
structure ActivationSnapshot where
  context : Option Context := none

namespace ActivationSnapshot

variable {σ τ α : Type} [Threaded σ τ]

def capture (s : τ) : ActivationSnapshot :=
  ⟨(Threaded.thread s).stack.current⟩

def name (a : ActivationSnapshot) : Option String :=
  a.context.map Context.name

/-- Runs a body while the captured context is active, if there is one. -/
def call (a : ActivationSnapshot) (body : τ → Ending α × τ) (s : τ) : Ending α × τ :=
  match a.context with
  | some c => Activation.call c body s
  | none => body s

/-- A description that tells the name. -/
def describe (a : ActivationSnapshot) : String :=
  "ActivationSnapshot \x7b namespace: " ++
    (match a.name with
    | some n => "Some(" ++ Text.quoted n ++ ")"
    | none => "None") ++ " \x7d"

end ActivationSnapshot

end Tenancy
