import Tenancy.Bundle.Settings
import Tenancy.Config.Namespace
import Tenancy.Context.Layer
import Tenancy.Registry.Basic

/-!
# Session/Command — what can be asked of a session

Contexts, other sources, guards and snapshots are kept under names. A source goes by the name of a
context, by `resolver`, or by the name of a static source, in this order. Some commands carry a body
of further commands, which run inside a scope.
-/

namespace Tenancy.Session

/-! ## Traps -/

/-- The calls to the plugin registry that a trap can wait for. -/
inductive PluginCall where
  | register
  | deregister
  deriving Repr, DecidableEq

/-- What somebody else does when a trap goes off. -/
inductive Intrusion where
  | nothing
  | removeNamespace
  | shutdown
  deriving Repr, DecidableEq

/-- Waits for the next call of a kind to the plugin registry; then somebody else acts in the middle
of it, and what a context answers at that moment is noted. -/
structure Trap where
  on : PluginCall
  act : Intrusion
  /-- The namespace that is removed, and whose context is asked unless another one is given. -/
  name : String
  /-- The unit that the context is asked for. -/
  id : String
  context : Option Context := none
  /-- The registry that the trap keeps alive while it waits. -/
  registry : Option RegistrySettings := none

/-! ## Commands -/

/-- How a context is built by hand. -/
structure Blueprint where
  name : String
  resources : List Definition
  order : ResolutionOrder
  /-- The source that it delegates to. -/
  parent : Option String
  materializer : Materializer
  extractor : ExtractorSettings
  /-- Stored payloads that replace those of extracted entries. -/
  corrupt : List (ArtifactKey × Bytes)

inductive Command where
  | add (name : String) (resources : List Definition) (order : Option ResolutionOrder)
  | apply (config : NamespaceConfig)
  | remove (name : String)
  | has (name : String)
  | isDefaultDefined
  | isEnabled
  | size
  | list
  | describe
  | settings
  | dropRegistry
  | hold (name : String) (handle : Option String)
  | build (handle : String) (plan : Blueprint)
  | addStatic (handle label : String) (resources : List Definition) (materializer : Materializer)
  | addResolver
  | pick
  | drop (handle : String)
  | info (context : String)
  | lookup (source : String) (key : ArtifactKey)
  | lookupAll (source : String) (key : ArtifactKey)
  | findLocal (context : String) (key : ArtifactKey)
  | contains (context : String) (key : ArtifactKey)
  | links (context : String) (key : ArtifactKey) (via : Option String)
  | shutdown (context : String)
  | sourceInfo (source : String)
  | enlist (context : String)
  | cleanUp (context name : String)
  | entries
  | providers (service : String)
  | owned (context : String)
  | arm (trap : Trap) (context : Option String)
  | settle
  | active
  | setup (tag : Option String)
  | cleanup (tag : Option String)
  | scopedContext (tag : Option String)
  | push (context : String)
  | pop (name : String)
  | clear
  | enter (context guard : String)
  | exit (guard : String)
  | dropGuard (guard : String)
  | capture (snapshot : String) (empty : Bool)
  | enterSnapshot (snapshot guard : String)
  | onThread (snapshot : String) (id : Option String)
  | callTagged (tag : Option String) (body : List Command)
  | callContext (context : String) (body : List Command)
  | callSnapshot (snapshot : String) (body : List Command)
  | panic (message : String)
  deriving Inhabited

end Tenancy.Session
