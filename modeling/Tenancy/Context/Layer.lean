import Tenancy.Artifact.Fingerprint
import Tenancy.Artifact.Materializer

/-!
# Context/Layer — what a delegation chain is made of

A source answers look-ups: an isolated context from its own entries and its delegate, a host from
its own entries, a resolver through whichever namespace is active. A delegate is older than what
delegates to it, so the chain behind a source is a list; hosts and resolvers end it.
-/

namespace Tenancy

/-- The fixed part of a source that holds entries. -/
structure Holding where
  id : ContextId
  /-- The namespace of a context, the label of a host. -/
  name : String
  entries : ArtifactMap
  materializer : Materializer

namespace Holding

def origin (h : Holding) : Origin :=
  ⟨h.id, h.name⟩

/-- The entry under a key, materialized. -/
def find (h : Holding) (key : ArtifactKey) : Except NamespaceError (Option Artifact) :=
  match h.entries.get? key with
  | none => .ok none
  | some e =>
    match h.materializer.ofEntry e key h.origin with
    | .ok a => .ok (some a)
    | .error err => .error err

end Holding

inductive Layer where
  | context (own : Holding) (order : ResolutionOrder)
  | host (own : Holding)
  | resolver (id : ContextId) (host : Option Holding)

namespace Layer

def id : Layer → ContextId
  | .context own _ => own.id
  | .host own => own.id
  | .resolver id _ => id

/-- What a source is called. -/
def label : Layer → String
  | .context own _ => own.name
  | .host own => own.name
  | .resolver .. => "namespace-aware"

/-- Only contexts delegate. -/
def delegates : Layer → Bool
  | .context .. => true
  | _ => false

end Layer

/-- One version of a namespace: its entries, its order and the chain behind it. -/
structure Context where
  own : Holding
  order : ResolutionOrder
  behind : List Layer

/-- Anything that answers look-ups, with the chain behind it. -/
structure Source where
  head : Layer
  behind : List Layer

namespace Context

def id (c : Context) : ContextId := c.own.id

def name (c : Context) : String := c.own.name

def source (c : Context) : Source :=
  ⟨.context c.own c.order, c.behind⟩

def fingerprint (c : Context) : Bytes :=
  Tenancy.fingerprint c.own.entries c.order

end Context

namespace Source

def layers (s : Source) : List Layer :=
  s.head :: s.behind

def id (s : Source) : ContextId := s.head.id

def ofHost (h : Holding) : Source :=
  ⟨.host h, []⟩

end Source

end Tenancy
