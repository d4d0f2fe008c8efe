import Tenancy.Decimal.Shortest
import Tenancy.Dialect
import Tenancy.Text.Lowercase

/-!
# Config/Setting — values as sources give them

What type a value has is settled only when it is read: a word or a number may stand for a flag, and
a flag or a number for a text. The names in tables are in small letters, whoever wrote them.
-/

namespace Tenancy

inductive Setting where
  | nothing
  | flag (b : Bool)
  | whole (n : Int)
  | double (d : Decimal.Double)
  | text (s : String)
  | list (items : List Setting)
  /-- The names are distinct. -/
  | table (members : List (String × Setting))
  deriving Inhabited

namespace Setting

/-! ## Reading -/

def asText? : Setting → Option String
  | .text s => some s
  | .flag b => some (if b then "true" else "false")
  | .whole n => some (toString n)
  | .double d => some d.text
  | _ => none

/-- What a word says as a flag. -/
def flagOfWord? (w : String) : Option Bool :=
  if ["1", "true", "on", "yes"].contains w then some true
  else if ["0", "false", "off", "no"].contains w then some false
  else none

/-- A number says yes unless it is zero. -/
def asFlag? : Setting → Option Bool
  | .flag b => some b
  | .whole n => some (n != 0)
  | .double d => some !d.isZero
  | .text s => flagOfWord? (Text.lower s)
  | _ => none

def asList? : Setting → Option (List Setting)
  | .list items => some items
  | _ => none

def asTable? : Setting → Option (List (String × Setting))
  | .table members => some members
  | _ => none

/-- A choice is a word, or a table with that word as its only name. -/
def choice? : Setting → Option String
  | .text s => some (Text.lower s)
  | .table [(name, _)] => some (Text.lower name)
  | _ => none

/-- A record is a table, or a list of its fields in order; what a list has beyond them is not
looked at. -/
def record? (fields : List String) : Setting → Option (List (Option Setting))
  | .table members => some (fields.map fun f => members.lookup f)
  | .list items => some ((List.range fields.length).map fun i => items[i]?)
  | _ => none

def dialect : Dialect Setting where
  text? := asText?
  flag? := asFlag?
  list? := asList?
  members? := asTable?
  isNothing
    | .nothing => true
    | _ => false
  choice? := choice?
  record? := record?

/-! ## Members and items -/

/-- The members of a table; anything else has none. -/
def members (v : Setting) : List (String × Setting) :=
  v.asTable?.getD []

def member? (v : Setting) (name : String) : Option Setting :=
  v.members.lookup (Text.lower name)

/-- Binds a name, as it is, in a list of members. -/
def rebind (ms : List (String × Setting)) (name : String) (v : Setting) :
    List (String × Setting) :=
  if (ms.lookup name).isSome then ms.map fun m => if m.1 == name then (name, v) else m
  else ms ++ [(name, v)]

/-- The table with a name bound; anything else becomes a table. -/
def withMember (v : Setting) (name : String) (below : Setting) : Setting :=
  .table (rebind v.members (Text.lower name) below)

/-- The items of a list; anything else has none. -/
def items (v : Setting) : List Setting :=
  v.asList?.getD []

/-- The place that an index names in a list of a length; a negative one counts from the end, and
there is none before the beginning. -/
def placeOf? (index : Int) (length : Nat) : Option Nat :=
  if 0 ≤ index then some index.toNat
  else if index.natAbs ≤ length then some (length - index.natAbs)
  else none

/-- The list with an item at a place; anything else becomes a list. A list that does not reach the
place is filled up to it, at the end or at the beginning. -/
def withItem (v : Setting) (index : Int) (below : Setting) : Setting :=
  match placeOf? index v.items.length with
  | some place =>
    let filled := v.items ++ List.replicate (place + 1 - v.items.length) .nothing
    .list (filled.set place below)
  | none =>
    .list (below :: (List.replicate (index.natAbs - v.items.length - 1) .nothing ++ v.items))

def item? (v : Setting) (index : Int) : Option Setting :=
  (placeOf? index v.items.length).bind (v.items[·]?)

/-! ## Putting values in -/

mutual

/-- **Puts a value under a name.** A table goes into the one that is there member by member, so an
empty one leaves what is there; any other value takes the place. -/
def put (v : Setting) (name : String) : Setting → Setting
  | .table ms => v.withMember name (putAll ((v.member? name).getD (.table [])) ms)
  | new => v.withMember name new

/-- Puts members in, one after another. -/
def putAll (v : Setting) : List (String × Setting) → Setting
  | [] => v
  | (name, new) :: rest => putAll (v.put name new) rest

end

end Setting

end Tenancy
