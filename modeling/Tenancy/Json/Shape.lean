import Tenancy.Json.Value

/-!
# Json/Shape — reading values of a known shape

A record may be given as an object or as an array of its fields in order. In an object a repeated
field is refused and an unknown one ignored; an array may stop early, the fields left out being
absent, and may not go on. A choice is its name, or an object with that name as its only key and
null as its value.
-/

namespace Tenancy.Json

def asText? : Json → Option String
  | .text s => s
  | _ => none

def asBool? : Json → Option Bool
  | .bool b => some b
  | _ => none

def asArray? : Json → Option (List Json)
  | .array xs => some xs
  | _ => none

/-- Reads every item. -/
def listOf? {α : Type} (read : Json → Option α) (j : Json) : Option (List α) :=
  j.asArray?.bind fun xs => xs.mapM read

/-- Null is an absent value. -/
def optional? {α : Type} (read : Json → Option α) : Json → Option (Option α)
  | .null => some none
  | j => (read j).map some

/-- The name of a choice. -/
def choice? : Json → Option String
  | .text s => s
  | .object [(k, .null)] => k
  | _ => none

/-- The members of an object whose keys are all text. -/
def keyed? (members : List (Option String × Json)) : Option (List (String × Json)) :=
  members.mapM fun m => m.1.map fun k => (k, m.2)

/-- Every known field occurs at most once. -/
def noRepeats (fields : List String) (members : List (String × Json)) : Bool :=
  fields.all fun f => (members.countP fun m => m.1 == f) ≤ 1

/-- What a record gives for each of its fields, in order; `none` is a field left out. -/
def record? (fields : List String) : Json → Option (List (Option Json))
  | .object members => do
    let ms ← keyed? members
    if noRepeats fields ms then some (fields.map fun f => ms.lookup f) else none
  | .array xs =>
    if xs.length ≤ fields.length then
      some (xs.map some ++ List.replicate (fields.length - xs.length) none)
    else none
  | _ => none

/-- The value of a field, or what it is when left out. -/
def field? {α : Type} (read : Json → Option α) (absent : Option α) : Option Json → Option α
  | some j => read j
  | none => absent

/-! ## Access for readers of free-form requests -/

/-- The member of an object with a given key, the last of several. -/
def get? (j : Json) (key : String) : Option Json :=
  match j with
  | .object members => (members.reverse.find? fun m => m.1 == some key).map (·.2)
  | _ => none

def asNat? : Json → Option Nat
  | .number w => w.toNat?
  | _ => none

end Tenancy.Json
