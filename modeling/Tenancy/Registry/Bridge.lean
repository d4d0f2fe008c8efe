import Tenancy.Artifact.Manifest
import Tenancy.Artifact.Naming
import Tenancy.Context.Resolution
import Tenancy.Dialect

/-!
# Registry/Bridge — plugins follow their context

When a context is installed, the providers that its manifests list are registered, but only those
that the context itself defines; one that is merely reachable belongs to somebody else. When it is
retired every entry it owns is removed. The context is held open while its providers are
registered, so that its clean-up comes after them. What the plugin registry refuses is reported and
stops nothing.
-/

namespace Tenancy

open Program (perform)

structure BridgeSettings where
  /-- The services whose providers are registered. -/
  services : List String := ["sql.Driver"]
  /-- What the path of a manifest begins with, the service being the rest. -/
  manifestStart : String := "META-INF/services/"
  deriving Repr, DecidableEq

namespace BridgeSettings

def toJson (s : BridgeSettings) : Json :=
  .obj [("services", .strs s.services), ("manifest_prefix", .str s.manifestStart)]

def read {V : Type} (d : Dialect V) (v : V) : Option BridgeSettings :=
  match d.record? ["services", "manifest_prefix"] v with
  | some [services, start] => do
    let services ← Dialect.field? (d.listOf? d.text?) (some ["sql.Driver"]) services
    let manifestStart ← Dialect.field? d.text? (some "META-INF/services/") start
    some { services, manifestStart }
  | _ => none

def ofJson? (j : Json) : Option BridgeSettings :=
  read Json.dialect j

end BridgeSettings

namespace Bridge

def origin : String := "nsload::bridge"

/-! ## Registering -/

/-- The provider ids in the order of their first occurrence. -/
def providersOf (manifests : List Artifact) : List String :=
  (manifests.flatMap fun m => Manifest.parse m.bytes).eraseDups

/-- The providers of a service in every manifest that the context reaches. -/
def discover (s : BridgeSettings) (active : Option String) (c : Context) (service : String) :
    Program (List String) := do
  let path := Naming.manifestPath s.manifestStart service
  match ← c.findResources active path with
  | .ok manifests => return providersOf manifests
  | .error e =>
    perform (.report ⟨.warn, origin, "Failed to read service manifests",
      [("namespace", .text c.name), ("manifest", .text path), ("error", .text e.message)]⟩)
    return []

/-- Registers one provider, if the context defines it; tells whether it is registered now. -/
def enlistProvider (active : Option String) (c : Context) (service provider : String) :
    Program Bool := do
  match ← c.resolve active provider with
  | .error e =>
    perform (.report ⟨.warn, origin, "Provider listed in manifest could not be resolved",
      [("namespace", .text c.name), ("service", .text service), ("provider", .text provider),
        ("error", .text e.message)]⟩)
    return false
  | .ok a =>
    if a.origin.context = c.id then
      match ← perform (.register ⟨service, provider, c.id, c.name⟩) with
      | .ok handle =>
        perform (.report ⟨.debug, origin, "Registered provider",
          [("namespace", .text c.name), ("service", .text service), ("provider", .text provider),
            ("handle", .number handle)]⟩)
        return true
      | .error e =>
        perform (.report ⟨.warn, origin, "Failed to register provider",
          [("namespace", .text c.name), ("provider", .text provider),
            ("error", .text e.message)]⟩)
        return false
    else
      perform (.report ⟨.trace, origin, "Skipping provider defined by another context",
        [("namespace", .text c.name), ("provider", .text provider),
          ("owner", .text a.origin.context.text)]⟩)
      return false

/-- Registers providers of a service; the number of those that are registered now. -/
def enlistProviders (active : Option String) (c : Context) (service : String) :
    List String → Program Nat
  | [] => return 0
  | p :: ps => do
    let done ← enlistProvider active c service p
    let rest ← enlistProviders active c service ps
    return done.toNat + rest

def enlistServices (s : BridgeSettings) (active : Option String) (c : Context) :
    List String → Program Nat
  | [] => return 0
  | service :: services => do
    let providers ← discover s active c service
    let here ← enlistProviders active c service providers
    let rest ← enlistServices s active c services
    return here + rest

/-- **Registers the providers that a context defines**; the number of registrations. -/
def enlist (s : BridgeSettings) (active : Option String) (c : Context) : Program Nat := do
  match ← c.own.enter with
  | .error _ =>
    perform (.report ⟨.debug, origin, "Context retired before its providers were registered",
      [("namespace", .text c.name), ("context", .text c.id.text)]⟩)
    return 0
  | .ok () =>
    let n ← enlistServices s active c s.services
    perform (.leave c.id)
    return n

/-! ## Removing -/

/-- Removes the entries of an owner among those listed; the number of those removed. -/
def removeOwned (owner : ContextId) (name : String) : List Plugin.Listing → Program Nat
  | [] => return 0
  | e :: es => do
    if e.registration.owner = owner then
      match ← perform (.deregister e.handle) with
      | .ok () =>
        perform (.report ⟨.debug, origin, "Deregistered provider",
          [("namespace", .text name), ("provider", .text e.registration.provider),
            ("handle", .number e.handle)]⟩)
        let rest ← removeOwned owner name es
        return rest + 1
      | .error f =>
        perform (.report ⟨.warn, origin, "Failed to deregister provider",
          [("namespace", .text name), ("provider", .text e.registration.provider),
            ("error", .text f.message)]⟩)
        removeOwned owner name es
    else removeOwned owner name es

/-- **Removes every entry of an owner**; the number of those removed. -/
def cleanup (owner : ContextId) (name : String) : Program Nat := do
  let listed ← perform .entries
  removeOwned owner name listed

end Bridge

end Tenancy
