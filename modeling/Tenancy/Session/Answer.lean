import Tenancy.Activation.Scope
import Tenancy.Bundle.Settings
import Tenancy.Context.Resolution
import Tenancy.Registry.Bridge

/-!
# Session/Answer — what a session says

Every command has an answer, and with it comes what was reported since the answer before, by the
session's own thread and by others.
-/

namespace Tenancy.Session

/-- Why a command fails. -/
inductive Failure where
  | «namespace» (e : NamespaceError)
  | activation (e : ActivationError)
  | panic (message : String)

/-- What is active on a thread. -/
structure Active where
  name : Option String
  context : Option ContextId
  count : Nat
  depth : Nat
  isClear : Bool

def Active.of (k : ActivationStack) : Active where
  name := k.currentName
  context := k.current.map Context.id
  count := k.reentrancy
  depth := k.depth
  isClear := k.isEmpty

/-- What a context answered while somebody else was acting. -/
structure Note where
  state : ContextState
  resolved : Except NamespaceError Artifact

/-- Something reported, and whether the session's own thread did it. -/
structure Report where
  event : Event
  own : Bool
  deriving Repr, DecidableEq

inductive Reply where
  | flag (b : Bool)
  | number (n : Nat)
  | text (s : Option String)
  | id (c : Option ContextId)
  | failed (f : Failure)
  | artifact (a : Option Artifact)
  | artifacts (as : List Artifact)
  /-- The lookup before the command proper failed. -/
  | lookupFailed (e : NamespaceError)
  | size (length : Nat) (order : ResolutionOrder) (host : Option String)
  | listing (contexts : List (String × Context))
  | settings (extractor : ExtractorSettings) (bridge : BridgeSettings) (plugins : Nat)
  | holding (id : ContextId) (size : Nat)
  | source (found : Option (ContextId × String))
  | sourceInfo (id : ContextId) (label : String) (parent : Option ContextId)
  | info (c : Context) (state : ContextState) (parent : Option ContextId)
  | state (s : ContextState)
  | entries (es : List Plugin.Listing)
  | active (a : Active)
  | captured (s : ActivationSnapshot)
  | notes (ns : List (Option Note))
  | thread (before during : Active) (resolved : Option (Except NamespaceError Artifact))
      (after : Active)
  /-- The answers inside the scope, and what is active after it. -/
  | scope (failure : Option Failure) (inner : List (Reply × List Report)) (after : Active)
  /-- The command names something that is not there. -/
  | unknown

abbrev Answer := Reply × List Report

/-- What the reply says if it is a failure that breaks off the session. -/
def Reply.uncaught? : Reply → Option String
  | .failed (.namespace e) => e.uncaught?
  | _ => none

def Reply.ofExcept {α : Type} (f : α → Reply) : Except NamespaceError α → Reply
  | .ok a => f a
  | .error e => .failed (.namespace e)

end Tenancy.Session
