import Tenancy.Config.Basic
import Tenancy.Service

/-!
# Config/Startup — a registry or a service from a configuration

A registry applies its namespaces in key order and stops at the first failure. A service asks for a
valid configuration first, and is off when namespaces are not enabled.
-/

namespace Tenancy

open Program (perform)

namespace Config

def registrySettings (c : Config) (host : Option Holding) : RegistrySettings where
  extractor := c.extractor
  bridge := c.bridge
  materializer := c.namespaces.materializer.toMaterializer
  defaultOrder := c.namespaces.defaultOrder
  host := host

/-- Applies namespaces in turn, up to the first failure. -/
def applyAll (s : RegistrySettings) (t : Files.Tree) :
    List NamespaceConfig → Program (Except NamespaceError Unit)
  | [] => return .ok ()
  | n :: ns => do
    match ← Registry.apply s t n with
    | .ok _ => applyAll s t ns
    | .error e => return .error e

/-- **A registry from a configuration**, valid or not. -/
def startRegistry (c : Config) (t : Files.Tree) (host : Option Holding) :
    Program (Except NamespaceError RegistrySettings) := do
  let s := c.registrySettings host
  match ← applyAll s t c.namespaces.resolved with
  | .error e => return .error e
  | .ok () =>
    let n ← perform .boundCount
    perform (.report ⟨.info, Registry.origin, "Namespace registry initialized from configuration",
      [("namespaces", .number n)]⟩)
    return .ok s

/-- **A service from a configuration.** -/
def startService (c : Config) (t : Files.Tree) (host : Option Holding) :
    Program (Except NamespaceError Service) := do
  match c.ensureValid with
  | .error e => return .error e
  | .ok () =>
    if c.namespaces.enabled then
      match ← c.startRegistry t host with
      | .ok s => return .ok (.registry s)
      | .error e => return .error e
    else
      perform (.report ⟨.info, "nsload::service", "Namespaces disabled, using no-op service", []⟩)
      return .ok .off

end Config

end Tenancy
