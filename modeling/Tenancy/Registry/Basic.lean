import Tenancy.Bundle.Extraction
import Tenancy.Config.Namespace
import Tenancy.Registry.Bridge

/-!
# Registry/Basic — names and the contexts bound to them

Adding a namespace takes its resources apart first, so that a failure changes nothing, then binds
the name to a new context in one action. The context that was bound before is retired after that:
taken out of use, waited for, its plugins removed, disposed of.
-/

namespace Tenancy

open Program (perform)

structure RegistrySettings where
  extractor : ExtractorSettings := {}
  bridge : BridgeSettings := {}
  materializer : Materializer := .raw
  defaultOrder : ResolutionOrder := .childFirst
  /-- What every namespace delegates to. -/
  host : Option Holding := none

namespace Registry

def origin : String := "nsload::registry"

/-- A blank name names no namespace. -/
def checkName (name : String) : Except NamespaceError Unit :=
  if Text.allBlank name then .error (.invalidArgument .blankName) else .ok ()

def reportAll : List Event → Program Unit
  | [] => return ()
  | e :: es => do
    perform (.report e)
    reportAll es

/-! ## Retiring and installing -/

def retire (c : Context) : Program Unit := do
  let _ ← c.beginShutdown
  let removed ← Bridge.cleanup c.id c.name
  c.finishShutdown
  perform (.report ⟨.debug, origin, "Context retired",
    [("namespace", .text c.name), ("context", .text c.id.text), ("deregistered", .number removed)]⟩)

/-- A context of the registry: it delegates to the host and to nothing else. -/
def contextOf (s : RegistrySettings) (id : ContextId) (name : String) (entries : ArtifactMap)
    (order : ResolutionOrder) : Context where
  own := ⟨id, name, entries, s.materializer⟩
  order := order
  behind := (s.host.map Layer.host).toList

def install (s : RegistrySettings) (name : String) (entries : ArtifactMap)
    (order : ResolutionOrder) : Program Unit := do
  let id ← perform .allocate
  let c := contextOf s id name entries order
  let previous ← perform (.bind name c)
  perform (.report ⟨.info, origin, "Namespace installed",
    [("namespace", .text name), ("context", .text id.text), ("entries", .number entries.size),
      ("replaced", .flag previous.isSome)]⟩)
  match previous with
  | some p => retire p
  | none => pure ()
  let _ ← Bridge.enlist s.bridge none c

/-! ## The operations -/

/-- Takes definitions apart and reports what that reports. -/
def extractReporting (s : RegistrySettings) (ds : List Definition) :
    Program (Except NamespaceError ArtifactMap) := do
  reportAll (extractAllReports s.extractor ds)
  return extractAll s.extractor ds

/-- Installs or replaces a namespace. -/
def addWithOrder (s : RegistrySettings) (name : String) (ds : List Definition)
    (order : ResolutionOrder) : Program (Except NamespaceError Unit) := do
  match checkName name with
  | .error e => return .error e
  | .ok () =>
    match ← extractReporting s ds with
    | .error e => return .error e
    | .ok entries =>
      install s name entries order
      return .ok ()

/-- Installs or replaces a namespace in the default order. -/
def add (s : RegistrySettings) (name : String) (ds : List Definition) :
    Program (Except NamespaceError Unit) :=
  addWithOrder s name ds s.defaultOrder

/-- The context holds these entries in this order. -/
def isUnchanged (c : Context) (entries : ArtifactMap) (order : ResolutionOrder) : Bool :=
  c.order = order && c.fingerprint = fingerprint entries order

/-- Installs a namespace, unless it is unchanged; tells whether it was installed. -/
def reconcile (s : RegistrySettings) (name : String) (entries : ArtifactMap)
    (order : ResolutionOrder) : Program Bool := do
  let bound ← perform (.boundTo name)
  if bound.any (isUnchanged · entries order) then
    perform (.report ⟨.debug, origin, "Namespace unchanged, skipping", [("namespace", .text name)]⟩)
    return false
  else
    install s name entries order
    return true

/-- **Brings a namespace in line with its configuration.** The answer is `false` when it holds the
same content in the same order already, and then nothing is replaced. -/
def apply (s : RegistrySettings) (t : Files.Tree) (c : NamespaceConfig) :
    Program (Except NamespaceError Bool) := do
  match checkName c.name with
  | .error e => return .error e
  | .ok () =>
    match c.toDefinitions t with
    | .error e => return .error e
    | .ok ds =>
      match ← extractReporting s ds with
      | .error e => return .error e
      | .ok entries => return .ok (← reconcile s c.name entries (c.order.getD s.defaultOrder))

/-- Removes a namespace; tells whether it was there. -/
def remove (name : String) : Program Bool := do
  match ← perform (.unbind name) with
  | some c =>
    perform (.report ⟨.info, origin, "Namespace removed",
      [("namespace", .text name), ("context", .text c.id.text)]⟩)
    retire c
    return true
  | none => return false

end Registry

end Tenancy
