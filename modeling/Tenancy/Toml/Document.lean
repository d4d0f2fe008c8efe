import Tenancy.Toml.Number

/-!
# Toml/Document — from lines to a table

A header opens a table, a line with an equals sign puts a value into it. Tables come about in three
ways: by a header, on the way to another header, and by a dotted key; what may be added to a table
later depends on how it came about. A value that is written inline is complete.
-/

namespace Tenancy.Toml

/-! ## Tables under construction -/

inductive Item where
  | value (v : Value)
  /-- A table; `implicit` ones have had no header, `dotted` ones come from a dotted key. -/
  | table (implicit dotted : Bool) (members : List (String × Item))
  /-- The tables of a repeated header, in order. -/
  | tables (ts : List (List (String × Item)))

abbrev Items := List (String × Item)

namespace Items

def put (items : Items) (k : String) (i : Item) : Items :=
  if (items.lookup k).isSome then items.map fun m => if m.1 == k then (k, i) else m
  else items ++ [(k, i)]

/-- Changes the table at the end of a path, with the way it came about. Tables that are missing are
made on the way; a dotted key does not go into a table that has had a header. -/
def alter (dotted : Bool) (f : Bool → Items → Option Items) (isDotted : Bool) :
    List String → Items → Option Items
  | [], items => f isDotted items
  | k :: ks, items =>
    match items.lookup k with
    | none => (alter dotted f dotted ks []).map fun new => items.put k (.table true dotted new)
    | some (.value _) => none
    | some (.tables ts) =>
      match ts.getLast? with
      | none => none
      | some t => (alter dotted f false ks t).map fun new =>
        items.put k (.tables (ts.dropLast ++ [new]))
    | some (.table implicit viaKey t) =>
      if dotted && !implicit then none
      else (alter dotted f viaKey ks t).map fun new => items.put k (.table implicit viaKey new)

/-- Puts a value under a key that is free. A dotted key ends in a table that dotted keys made, and
any other key in one that they did not make. -/
def addValue (path : List String) (k : String) (v : Value) (isDotted : Bool) (items : Items) :
    Option Items :=
  alter true (fun inDotted items =>
    if inDotted == path.isEmpty then none
    else if (items.lookup k).isSome then none
    else some (items.put k (.value v))) isDotted path items

/-- Opens a table by its header. One that has been on the way to others comes last from now on. -/
def openTable (path : List String) (k : String) (items : Items) : Option Items :=
  alter false (fun _ items =>
    match items.lookup k with
    | none => some (items.put k (.table false false []))
    | some (.table true false t) =>
      some ((items.filter fun m => m.1 != k) ++ [(k, .table false false t)])
    | some _ => none) false path items

/-- Opens one more table under a repeated header. -/
def openNext (path : List String) (k : String) (items : Items) : Option Items :=
  alter false (fun _ items =>
    match items.lookup k with
    | none => some (items.put k (.tables [[]]))
    | some (.tables ts) => some (items.put k (.tables (ts ++ [[]])))
    | some _ => none) false path items

end Items

mutual

def Item.toValue : Item → Value
  | .value v => v
  | .table _ _ t => .table (membersOf t)
  | .tables ts => .array (tablesOf ts)

def membersOf : List (String × Item) → List (String × Value)
  | [] => []
  | (k, i) :: rest => (k, i.toValue) :: membersOf rest

def tablesOf : List (List (String × Item)) → List Value
  | [] => []
  | t :: ts => .table (membersOf t) :: tablesOf ts

end

/-! ## Values -/

/-- The last key of a path, and those before it. -/
def splitLast (ks : List String) : Option (List String × String) :=
  ks.getLast?.map fun k => (ks.dropLast, k)

mutual

/-- A value; `depth` is how many arrays and inline tables it stands in. -/
def value (depth : Nat) : Nat → Reader Value
  | 0, _ => none
  | _, [] => none
  | fuel + 1, c :: rest =>
    if c == '"' || c == '\'' then (stringValue (c :: rest)).map fun r => (.text r.1, r.2)
    else if c == '[' then
      if depth + 1 < depthLimit then
        (arrayItems (depth + 1) fuel rest).map fun r => (.array r.1, r.2)
      else none
    else if c == '{' then
      if depth + 1 < depthLimit then inlineTable (depth + 1) fuel rest else none
    else if c == '+' || c == '-' || c.isDigit then numeric (c :: rest)
    else
      match c :: rest with
      | 't' :: 'r' :: 'u' :: 'e' :: rest => some (.boolean true, rest)
      | 'f' :: 'a' :: 'l' :: 's' :: 'e' :: rest => some (.boolean false, rest)
      | cs => specialFloat false cs

/-- The items of an array up to its end; a comma may stand before it. -/
def arrayItems (depth : Nat) : Nat → Reader (List Value)
  | 0, _ => none
  | fuel + 1, cs =>
    match skipLines (cs.length + 1) cs with
    | ']' :: rest => some ([], rest)
    | cs =>
      match value depth fuel cs with
      | none => none
      | some (v, rest) =>
        match skipLines (rest.length + 1) rest with
        | ',' :: rest => (arrayItems depth fuel rest).map fun r => (v :: r.1, r.2)
        | ']' :: rest => some ([v], rest)
        | _ => none

/-- An inline table after its opening brace. -/
def inlineTable (depth : Nat) : Nat → Reader Value
  | 0, _ => none
  | fuel + 1, cs =>
    match skipBlank cs with
    | '}' :: rest => some (.table [], rest)
    | cs => (inlineMembers depth fuel [] cs).map fun r => (.table (membersOf r.1), r.2)

/-- One or more members with commas between, up to the closing brace. -/
def inlineMembers (depth : Nat) : Nat → Items → Reader Items
  | 0, _, _ => none
  | fuel + 1, items, cs =>
    match dottedKey cs with
    | some (ks, '=' :: rest) =>
      match value depth fuel (skipBlank rest) with
      | none => none
      | some (v, rest) =>
        match (splitLast ks).bind fun k => items.addValue k.1 k.2 v false with
        | none => none
        | some items =>
          match skipBlank rest with
          | ',' :: rest => inlineMembers depth fuel items rest
          | '}' :: rest => some (items, rest)
          | _ => none
    | _ => none

end

/-! ## Lines -/

/-- What has been read: the document's table, and the path of the table that is open. -/
structure Draft where
  items : Items
  here : List String

namespace Draft

/-- Puts a value into the open table. -/
def addLine (d : Draft) (ks : List String) (v : Value) : Option Draft :=
  (splitLast ks).bind fun k =>
    (Items.alter false (fun isDotted items => items.addValue k.1 k.2 v isDotted) false d.here
      d.items).map fun items => { d with items }

def addHeader (d : Draft) (repeated : Bool) (ks : List String) : Option Draft :=
  (splitLast ks).bind fun k =>
    (if repeated then d.items.openNext k.1 k.2 else d.items.openTable k.1 k.2).map
      fun items => ⟨items, ks⟩

end Draft

/-- A header after its opening brackets. -/
def headerRest (repeated : Bool) (cs : List Char) : Option (List String × List Char) :=
  match dottedKey cs, repeated with
  | some (ks, ']' :: ']' :: rest), true => (lineEnd? rest).map fun rest => (ks, rest)
  | some (ks, ']' :: rest), false => (lineEnd? rest).map fun rest => (ks, rest)
  | _, _ => none

/-- Reads lines up to the end. -/
def linesFrom : Nat → Draft → List Char → Option Draft
  | 0, _, _ => none
  | fuel + 1, d, cs =>
    match skipLines (cs.length + 1) cs with
    | [] => some d
    | '[' :: '[' :: rest => do
      let (ks, rest) ← headerRest true rest
      let d ← d.addHeader true ks
      linesFrom fuel d rest
    | '[' :: rest => do
      let (ks, rest) ← headerRest false rest
      let d ← d.addHeader false ks
      linesFrom fuel d rest
    | cs =>
      match dottedKey cs with
      | some (ks, '=' :: rest) => do
        let (v, rest) ← value 0 (2 * rest.length + 2) (skipBlank rest)
        let rest ← lineEnd? rest
        let d ← d.addLine ks v
        linesFrom fuel d rest
      | _ => none

/-- A mark of the byte order at the beginning is not part of the text. -/
def withoutMark : List Char → List Char
  | c :: rest => if c.toNat == 0xFEFF then rest else c :: rest
  | [] => []

/-! ## Tables that stand for moments -/

/-- The key that makes a table stand for a moment, if it comes first. -/
def momentKey : String := "$__toml_private_datetime"

mutual

/-- The value with the moments that tables in it stand for. What such a table holds besides does not
count, but a text has to tell the moment. -/
def Value.settled? : Value → Option Value
  | .table [] => some (.table [])
  | .table ((k, v) :: ms) =>
    if k == momentKey then
      match v with
      | .text s => (momentOfText? s).map .moment
      | _ => none
    else do
      let v ← v.settled?
      let ms ← settledMembers? ms
      some (.table ((k, v) :: ms))
  | .array items => (settledItems? items).map .array
  | v => some v

def settledMembers? : List (String × Value) → Option (List (String × Value))
  | [] => some []
  | (k, v) :: ms => do
    let v ← v.settled?
    let ms ← settledMembers? ms
    some ((k, v) :: ms)

def settledItems? : List Value → Option (List Value)
  | [] => some []
  | v :: vs => do
    let v ← v.settled?
    let vs ← settledItems? vs
    some (v :: vs)

end

/-! ## Documents -/

/-- **The table that a document holds.** -/
def parse (text : String) : Option (List (String × Value)) := do
  let cs := withoutMark text.toList
  let d ← linesFrom (cs.length + 1) ⟨[], []⟩ cs
  match ← (Value.table (membersOf d.items)).settled? with
  | .table members => some members
  | _ => none

end Tenancy.Toml
