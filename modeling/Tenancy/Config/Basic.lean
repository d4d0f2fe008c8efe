import Tenancy.Config.Namespace
import Tenancy.Logging.Settings
import Tenancy.Registry.Basic

/-!
# Config/Basic — the whole configuration

Namespaces are listed under keys; one whose name is left out goes by its key. `validate` reports
every fault, part by part.
-/

namespace Tenancy

structure NamespacesConfig where
  enabled : Bool := false
  defaultOrder : ResolutionOrder := .childFirst
  materializer : MaterializerKind := .raw
  namespaces : Table String NamespaceConfig := ∅

namespace NamespacesConfig

/-- The namespaces in key order, each with its name. -/
def resolved (c : NamespacesConfig) : List NamespaceConfig :=
  c.namespaces.pairs.map fun n => if n.2.name.isEmpty then { n.2 with name := n.1 } else n.2

def toJson (c : NamespacesConfig) : Json :=
  .obj [("enabled", .bool c.enabled), ("default_order", .str c.defaultOrder.word),
    ("materializer", .str c.materializer.word),
    ("namespaces", .obj (c.namespaces.pairs.map fun n => (n.1, n.2.toJson)))]

def read {V : Type} (d : Dialect V) (v : V) : Option NamespacesConfig :=
  match d.record? ["enabled", "default_order", "materializer", "namespaces"] v with
  | some [enabled, defaultOrder, materializer, namespaces] => do
    let enabled ← Dialect.field? d.flag? (some false) enabled
    let defaultOrder ←
      Dialect.field? (d.choiceOf? ResolutionOrder.ofWord?) (some .childFirst) defaultOrder
    let materializer ←
      Dialect.field? (d.choiceOf? MaterializerKind.ofWord?) (some .raw) materializer
    let namespaces ← Dialect.field? (d.tableOf? (NamespaceConfig.read d)) (some ∅) namespaces
    some { enabled, defaultOrder, materializer, namespaces }
  | _ => none

end NamespacesConfig

structure Config where
  namespaces : NamespacesConfig := {}
  extractor : ExtractorSettings := {}
  bridge : BridgeSettings := {}
  logging : LoggingSettings := {}

namespace Config

/-! ## What is wrong with it -/

def issueOf {ε α : Type} (wrap : ε → ConfigIssue) : Except ε α → List ConfigIssue
  | .ok _ => []
  | .error e => [wrap e]

/-- A namespace may not have a name other than its key. -/
def keyIssues (c : Config) : List ConfigIssue :=
  (c.namespaces.namespaces.pairs.filter fun n => !n.2.name.isEmpty && n.2.name != n.1).map
    fun n => .namespace n.1 (.otherKey n.2.name)

/-- Every fault, in the order of the parts. -/
def validate (c : Config) : List ConfigIssue :=
  c.keyIssues ++
  (c.namespaces.resolved.flatMap fun n => issueOf (.namespace n.name) n.validate) ++
  issueOf .extractor c.extractor.validate ++
  (if c.bridge.services.any Text.allBlank then [.blankService] else []) ++
  issueOf .logging c.logging.validate

def ensureValid (c : Config) : Except NamespaceError Unit :=
  if c.validate.isEmpty then .ok () else .error (.config (.invalid c.validate))

/-! ## JSON -/

def toJson (c : Config) : Json :=
  .obj [("namespaces", c.namespaces.toJson), ("extractor", c.extractor.toJson),
    ("bridge", c.bridge.toJson), ("logging", c.logging.toJson)]

def read {V : Type} (d : Dialect V) (v : V) : Option Config :=
  match d.record? ["namespaces", "extractor", "bridge", "logging"] v with
  | some [namespaces, extractor, bridge, logging] => do
    let namespaces ← Dialect.field? (NamespacesConfig.read d) (some {}) namespaces
    let extractor ← Dialect.field? (ExtractorSettings.read d) (some {}) extractor
    let bridge ← Dialect.field? (BridgeSettings.read d) (some {}) bridge
    let logging ← Dialect.field? (LoggingSettings.read d) (some {}) logging
    some { namespaces, extractor, bridge, logging }
  | _ => none

def ofJson? (j : Json) : Option Config :=
  read Json.dialect j

end Config

end Tenancy
