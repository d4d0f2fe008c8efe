import Tenancy.Json.Shape
import Tenancy.Table

/-!
# Dialect — reading typed values out of untyped ones

Settings reach the program as JSON and as layered sources. A dialect says what counts as a text, a
list or a record among its values; a type of settings is read in the same way from every dialect.
-/

namespace Tenancy

structure Dialect (V : Type) where
  text? : V → Option String
  flag? : V → Option Bool
  list? : V → Option (List V)
  members? : V → Option (List (String × V))
  /-- The value stands for one that is absent. -/
  isNothing : V → Bool
  /-- The word of a choice. -/
  choice? : V → Option String
  /-- What a record gives for each of its fields, in order; `none` is a field left out. -/
  record? : List String → V → Option (List (Option V))

/-- The value of a field, or what it is when left out. -/
def Dialect.field? {V α : Type} (read : V → Option α) (absent : Option α) : Option V → Option α
  | some v => read v
  | none => absent

namespace Dialect

variable {V α : Type} (d : Dialect V)

/-- Reads every item. -/
def listOf? (read : V → Option α) (v : V) : Option (List α) :=
  (d.list? v).bind fun vs => vs.mapM read

def optional? (read : V → Option α) (v : V) : Option (Option α) :=
  if d.isNothing v then some none else (read v).map some

/-- Reads every member; of several with one key the last counts. -/
def tableOf? (read : V → Option α) (v : V) : Option (Table String α) := do
  let members ← d.members? v
  let pairs ← members.mapM fun m => (read m.2).map fun a => (m.1, a)
  some (Table.ofList pairs)

/-- Reads the word of a choice. -/
def choiceOf? (ofWord? : String → Option α) (v : V) : Option α :=
  (d.choice? v).bind ofWord?

end Dialect

/-- Values as JSON has them. -/
def Json.dialect : Dialect Json where
  text? := asText?
  flag? := asBool?
  list? := asArray?
  members?
    | .object members => keyed? members
    | _ => none
  isNothing
    | .null => true
    | _ => false
  choice? := choice?
  record? := record?

end Tenancy
