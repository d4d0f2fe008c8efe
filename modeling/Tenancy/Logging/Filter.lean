import Tenancy.Logging.Directive

/-!
# Logging/Filter — which events are reported

Of the rules that apply to an event the most specific one decides: the one with the longest target,
then the one with the most fields. A directive about spans, or about the values of fields, makes no
rule, for events stand in no span.
-/

namespace Tenancy

structure LogRule where
  level : LevelBound
  /-- What the origin of an event has to begin with. -/
  target : Option String
  /-- The fields that an event has to have. -/
  fields : List String
  deriving Repr, DecidableEq

namespace LogRule

def ofDirective? (d : Directive) : Option LogRule :=
  if d.span.isNone && d.fields.all (!·.2) then some ⟨d.level, d.target, d.fields.map (·.1)⟩
  else none

/-- The event has the field; the message counts as one. -/
def hasField (e : Event) (name : String) : Bool :=
  name == "message" || e.fields.any fun f => f.1 == name

def applies (r : LogRule) (e : Event) : Bool :=
  (r.target.all fun t => t.toList.isPrefixOf e.origin.toList) && r.fields.all (hasField e)

def weight (r : LogRule) : Nat :=
  match r.target with
  | none => 0
  | some t => t.utf8ByteSize + 1

/-- The rule goes before another one that applies to the same event. -/
def moreSpecific (r other : LogRule) : Bool :=
  if r.weight ≠ other.weight then other.weight < r.weight
  else if r.fields.length ≠ other.fields.length then other.fields.length < r.fields.length
  else other.fields < r.fields

end LogRule

/-- The rules; no two are about the same target and fields. -/
abbrev LogFilter := List LogRule

namespace LogFilter

/-- Adds a rule, instead of one about the same target and fields. -/
def add (f : LogFilter) (r : LogRule) : LogFilter :=
  f.filter (fun other => !(other.target == r.target && other.fields == r.fields)) ++ [r]

def addDirective (f : LogFilter) (d : Directive) : LogFilter :=
  match LogRule.ofDirective? d with
  | some r => f.add r
  | none => f

/-- The filter that directives make; without any only `default` decides. -/
def ofDirectives (default : LevelBound) (ds : List Directive) : LogFilter :=
  if ds.isEmpty then [⟨default, none, []⟩] else ds.foldl addDirective []

/-- The rule that decides about an event. -/
def deciding? (f : LogFilter) (e : Event) : Option LogRule :=
  (f.filter (·.applies e)).foldl (fun best r =>
    match best with
    | none => some r
    | some b => if r.moreSpecific b then some r else some b) none

def passes (f : LogFilter) (e : Event) : Bool :=
  (f.deciding? e).any fun r => r.level.passes e.level

/-! ## Texts with several directives -/

/-- The directives between commas, empty ones left out. -/
def parts (s : String) : List String :=
  ((s.toList.splitOn ',').map String.ofList).filter (· != "")

/-- Reads directives, all of which have to be good. With none nothing is reported. -/
def read (s : String) : Except DirectiveFault LogFilter :=
  ((parts s).mapM Directive.read).map (ofDirectives none)

/-- What is wrong with directives that are left out, each with its text. -/
abbrev LeftOut := List (String × DirectiveFault)

/-- Reads directives and leaves out those that are not good. With none errors are reported. -/
def readLeniently (s : String) : LeftOut × LogFilter :=
  let read := (parts s).map fun p => (p, Directive.read p)
  (read.filterMap fun r =>
    match r.2 with
    | .ok _ => none
    | .error e => some (r.1, e),
    ofDirectives (some .error) (read.filterMap fun r => r.2.toOption))

/-- The complaint about a directive that is left out. -/
def complaint (written : String) (e : DirectiveFault) : String :=
  "ignoring \x60" ++ written ++ "\x60: " ++ e.message

end LogFilter

end Tenancy
