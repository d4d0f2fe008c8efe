import Tenancy.Config.Resource

/-!
# Config/Namespace — one configured namespace

A namespace whose name is left out goes by the key it is listed under. Its resources may be an
empty list, but they may not be left out.
-/

namespace Tenancy

structure NamespaceConfig where
  name : String := ""
  /-- Instead of the default order. -/
  order : Option ResolutionOrder := none
  resources : Option (List ResourceConfig) := none
  deriving Repr, DecidableEq

namespace NamespaceConfig

/-- A namespace whose resources are carried inline. -/
def inline (name : String) (ds : List Definition) : NamespaceConfig :=
  { name, resources := some (ds.map .ofDefinition) }

/-- Reads every resource, up to the first failure. -/
def toDefinitions (t : Files.Tree) (c : NamespaceConfig) :
    Except NamespaceError (List Definition) :=
  match c.resources with
  | none => .error (.invalidArgument (.noResources c.name))
  | some rs => rs.mapM (ResourceConfig.toDefinition t)

/-- The first fault of the resources, `seen` being the ids before them. -/
def validateResources (seen : List String) : List ResourceConfig → Except NamespaceIssue Unit
  | [] => .ok ()
  | r :: rs =>
    match r.validate with
    | .error i => .error (.resource i)
    | .ok () =>
      if seen.contains r.id then .error (.duplicateId r.id) else validateResources (r.id :: seen) rs

def validate (c : NamespaceConfig) : Except NamespaceIssue Unit :=
  if Text.allBlank c.name then .error .blankName
  else
    match c.resources with
    | none => .error .noResources
    | some rs => validateResources [] rs

/-! ## JSON -/

def toJson (c : NamespaceConfig) : Json :=
  .obj [("name", .str c.name), ("order", .opt (c.order.map fun o => .str o.word)),
    ("resources", .opt (c.resources.map fun rs => .array (rs.map ResourceConfig.toJson)))]

def read {V : Type} (d : Dialect V) (v : V) : Option NamespaceConfig :=
  match d.record? ["name", "order", "resources"] v with
  | some [name, order, resources] => do
    let name ← Dialect.field? d.text? (some "") name
    let order ←
      Dialect.field? (d.optional? (d.choiceOf? ResolutionOrder.ofWord?)) (some none) order
    let resources ←
      Dialect.field? (d.optional? (d.listOf? (ResourceConfig.read d))) (some none) resources
    some { name, order, resources }
  | _ => none

def ofJson? (j : Json) : Option NamespaceConfig :=
  read Json.dialect j

end NamespaceConfig

end Tenancy
