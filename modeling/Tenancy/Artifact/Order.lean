import Tenancy.Json.Shape

/-!
# Artifact/Order — whether a context or its delegate is asked first
-/

namespace Tenancy

inductive ResolutionOrder where
  /-- Own entries, then the delegate. -/
  | childFirst
  /-- The delegate, and own entries when it has none. -/
  | parentFirst
  deriving Repr, DecidableEq

namespace ResolutionOrder

/-- The word for the order in configuration and JSON. -/
def word : ResolutionOrder → String
  | .childFirst => "child_first"
  | .parentFirst => "parent_first"

def ofWord? : String → Option ResolutionOrder
  | "child_first" => some .childFirst
  | "parent_first" => some .parentFirst
  | _ => none

def ofJson? (j : Json) : Option ResolutionOrder :=
  j.choice?.bind ofWord?

/-- The name of the order in descriptions of a context. -/
def title : ResolutionOrder → String
  | .childFirst => "ChildFirst"
  | .parentFirst => "ParentFirst"

end ResolutionOrder

end Tenancy
