import Tenancy.Json.Fault
import Tenancy.Json.Parser
import Tenancy.Json.Shape

/-!
# Artifact/Header — the links that a code unit declares

A unit may begin with a line `@unit` and a JSON record that names the unit it extends and the
units it implements. The line ends at the first line feed, and the record's text holds none, so
that whatever a header declares is read back from what it is written as.
-/

namespace Tenancy

structure UnitHeader where
  ancestor : Option String := none
  implemented : List String := []
  deriving Repr, DecidableEq

namespace UnitHeader

/-- What a unit with a header begins with. -/
def marker : Bytes :=
  utf8 "@unit "

def toJson (h : UnitHeader) : Json :=
  .obj [("extends", .opt (h.ancestor.map .str)), ("implements", .strs h.implemented)]

/-- The header line followed by the body. -/
def encode (h : UnitHeader) (body : Bytes) : Bytes :=
  marker ++ utf8 h.toJson.render ++ 10 :: body

/-- All declared links, the extended unit first. -/
def links (h : UnitHeader) : List String :=
  h.ancestor.toList ++ h.implemented

def ofJson? (j : Json) : Option UnitHeader :=
  match j.record? ["extends", "implements"] with
  | some [ancestor, implemented] => do
    let ancestor ← Json.field? (Json.optional? Json.asText?) (some none) ancestor
    let implemented ← Json.field? (Json.listOf? Json.asText?) (some []) implemented
    some { ancestor, implemented }
  | _ => none

/-- The record of the header line, if the unit has one. -/
def headerLine? (bs : Bytes) : Option Bytes :=
  if marker.isPrefixOf bs then some ((bs.drop marker.length).takeWhile (· != 10)) else none

/-- What is wrong with a line that is no header. -/
def lineFault (line : Bytes) : Json.Fault :=
  let fields := [("extends", Json.Scan.readOptional Json.Scan.readText),
    ("implements", Json.Scan.readList Json.Scan.readText)]
  (Json.Scan.fault? line (Json.Scan.readRecord "UnitHeader" fields line)).getD
    ⟨.value, line.length⟩

def ofLine (line : Bytes) : Except Json.Fault UnitHeader :=
  match (Json.parse line).bind ofJson? with
  | some h => .ok h
  | none => .error (lineFault line)

/-- The header of a unit, empty if it has no header line. -/
def ofUnit (bs : Bytes) : Except Json.Fault UnitHeader :=
  match headerLine? bs with
  | none => .ok {}
  | some line => ofLine line

end UnitHeader

end Tenancy
