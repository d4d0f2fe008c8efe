import Tenancy.Activation.Scope
import Tenancy.Registry.Basic

/-!
# Service — the face of the registry towards those who run tagged objects

Whoever runs an object that is tagged with a namespace sets the namespace up before and cleans it up
after, or makes a scoped call. No tag stands for the default namespace, if there is one. A service
that is switched off answers every request by doing nothing.
-/

namespace Tenancy

inductive Service where
  | registry (s : RegistrySettings)
  | off

namespace Service

def isEnabled : Service → Bool
  | .registry _ => true
  | .off => false

/-- The registry below the service. -/
def registry? : Service → Option RegistrySettings
  | .registry r => some r
  | .off => none

/-! ## Namespaces -/

def add (s : Service) (name : String) (ds : List Definition) :
    Program (Except NamespaceError Unit) :=
  match s with
  | .registry r => Registry.add r name ds
  | .off => return .ok ()

def remove (s : Service) (name : String) : Program Bool :=
  match s with
  | .registry _ => Registry.remove name
  | .off => return false

variable {σ τ α : Type}

def contextFor (s : Service) (w : World σ) (name : String) : Option Context :=
  match s with
  | .registry _ => w.bound.get? name
  | .off => none

def has (s : Service) (w : World σ) (name : String) : Bool :=
  (s.contextFor w name).isSome

def isDefaultDefined (s : Service) (w : World σ) : Bool :=
  match s with
  | .registry _ => w.defaultDefined
  | .off => false

/-- The context that a tag stands for, if it stands for one. -/
def scopedContext (s : Service) (w : World σ) (tag : Option String) :
    Except NamespaceError (Option Context) :=
  match s, tag with
  | .off, _ => .ok none
  | .registry _, some name =>
    match w.bound.get? name with
    | some c => .ok (some c)
    | none => .error (.unknownNamespace name)
  | .registry _, none => .ok (w.bound.get? defaultName)

/-! ## Brackets -/

variable [Threaded σ τ]

open Threaded (thread)

/-- Activates what a tag stands for; tells whether anything was activated. -/
def setup (s : Service) (tag : Option String) (t : τ) : Except NamespaceError Bool × τ :=
  match s.scopedContext (thread t).world tag with
  | .ok (some c) => (.ok true, (Activation.push c t).2)
  | .ok none => (.ok false, t)
  | .error e => (.error e, t)

/-- The name that a tag is cleaned up under. Without a tag that is the default namespace, if it is
defined by then. -/
def cleanupName (s : Service) (w : World σ) (tag : Option String) : Option String :=
  match s with
  | .off => none
  | .registry _ => tag <|> (if s.isDefaultDefined w then some defaultName else none)

/-- Ends the activation of a tag; tells whether there was one to end. -/
def cleanup (s : Service) (tag : Option String) (t : τ) : Except NamespaceError Bool × τ :=
  match s.cleanupName (thread t).world tag with
  | none => (.ok false, t)
  | some name =>
    match Activation.pop name t with
    | (.ok _, t) => (.ok true, t)
    | (.error e, t) => (.error (.activation e), t)

/-- **Runs a body while what a tag stands for is active.** An unknown name is an error, and then the
body does not run. -/
def call (s : Service) (tag : Option String) (body : τ → Ending α × τ) (t : τ) :
    Except NamespaceError (Ending α) × τ :=
  match s.scopedContext (thread t).world tag with
  | .ok (some c) => let (ending, t) := Activation.call c body t; (.ok ending, t)
  | .ok none => let (ending, t) := body t; (.ok ending, t)
  | .error e => (.error e, t)

end Service

end Tenancy
