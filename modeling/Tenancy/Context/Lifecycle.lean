/-!
# Context/Lifecycle — how a context is retired

A context is active, then shutting down, then disposed, and never goes back. While it is active
resolutions may enter it; those that have entered are counted until they leave. The warning about a
resolution on a retired context is given once.
-/

namespace Tenancy

inductive ContextState where
  | active
  | shuttingDown
  | disposed
  deriving Repr, DecidableEq

def ContextState.title : ContextState → String
  | .active => "Active"
  | .shuttingDown => "ShuttingDown"
  | .disposed => "Disposed"

structure Lifecycle where
  state : ContextState := .active
  /-- The resolutions that have entered and not left. -/
  inFlight : Nat := 0
  /-- A resolution has been refused and reported. -/
  refusalReported : Bool := false
  deriving Repr, DecidableEq

namespace Lifecycle

/-- A resolution enters, if the context is active. -/
def enter (l : Lifecycle) : Bool × Lifecycle :=
  if l.state = .active then (true, { l with inFlight := l.inFlight + 1 }) else (false, l)

def leave (l : Lifecycle) : Lifecycle :=
  { l with inFlight := l.inFlight - 1 }

/-- The first call on an active context begins its retirement and learns how many resolutions are
still inside. -/
def beginClose (l : Lifecycle) : Option Nat × Lifecycle :=
  if l.state = .active then (some l.inFlight, { l with state := .shuttingDown }) else (none, l)

/-- Disposes of the context; tells whether it was not disposed of before. -/
def finishClose (l : Lifecycle) : Bool × Lifecycle :=
  (l.state != .disposed, { l with state := .disposed })

/-- Records a refusal; tells whether it is the first. -/
def refuse (l : Lifecycle) : Bool × Lifecycle :=
  (!l.refusalReported, { l with refusalReported := true })

end Lifecycle

end Tenancy
