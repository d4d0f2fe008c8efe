import Tenancy.Error

/-!
# Plugin/Registration — what a shared plugin registry is asked

A plugin registry outlives the namespaces that use it and belongs to somebody else: it may refuse
anything, and it may change by itself. Every entry is tagged with the context that owns it.
-/

namespace Tenancy.Plugin

structure Registration where
  service : String
  provider : String
  owner : ContextId
  name : String
  deriving Repr, DecidableEq

/-- A registration that was accepted, under its handle. -/
structure Listing where
  handle : Nat
  registration : Registration
  deriving Repr, DecidableEq

inductive Fault where
  | rejected (service provider reason : String)
  | unknownHandle (handle : Nat)
  deriving Repr, DecidableEq

def Fault.message : Fault → String
  | .rejected service provider reason =>
    s!"Plugin '{provider}' for service '{service}' rejected: {reason}"
  | .unknownHandle h => s!"Unknown plugin handle: {h}"

/-- A registry with state `σ`. Nothing is promised about its answers. -/
class Backend (σ : Type) where
  register : Registration → σ → Except Fault Nat × σ
  deregister : Nat → σ → Except Fault Unit × σ
  entries : σ → List Listing × σ

end Tenancy.Plugin
