import Tenancy.Program

/-!
# Context/Resolution — look-ups along a delegation chain

A look-up gives the first match in the order of the chain, `lookupAll` gives every match. A context
counts a look-up as inside it until its answer is there, its delegate's part included, and refuses
one when it is no longer active. A resolver stands for the context that is bound to the active name,
or for its host.
-/

namespace Tenancy

open Program (perform)

/-- What a chain has under a key: an artifact, nothing, or a failure. -/
abbrev Found := Except NamespaceError (Option Artifact)

/-! ## Inside a context -/

namespace Holding

def retiredWarning (h : Holding) : Event :=
  ⟨.warn, "nsload::context",
    "Resolution attempted on a retired context; it was disposed when its namespace " ++
      "was replaced or removed",
    [("namespace", .text h.name), ("context", .text h.id.text)]⟩

/-- Enters a context. The first refusal is reported. -/
def enter (h : Holding) : Program (Except NamespaceError Unit) := do
  if ← perform (.enter h.id) then
    return .ok ()
  else
    if ← perform (.refuse h.id) then
      perform (.report h.retiredWarning)
    return .error (.contextShutdown h.id h.name)

/-- Does something inside a context. -/
def within {α : Type} (h : Holding) (body : Program (Except NamespaceError α)) :
    Program (Except NamespaceError α) := do
  match ← h.enter with
  | .error e => return .error e
  | .ok () =>
    let r ← body
    perform (.leave h.id)
    return r

end Holding

/-! ## Along a chain -/

namespace Chain

/-- The delegate that a chain begins with is still held by somebody. -/
def isHeld : List Layer → Program Bool
  | [] => return false
  | l :: _ => perform (.isHeld l.id)

/-- The first match in the order of the chain; `resolver` answers for a resolver. -/
def ask (resolver : Option Holding → ArtifactKey → Program Found) (key : ArtifactKey) :
    List Layer → Program Found
  | [] => return .ok none
  | .host own :: _ => return own.find key
  | .resolver _ host :: _ => resolver host key
  | .context own .childFirst :: behind => own.within do
      match own.find key with
      | .ok none => if ← isHeld behind then ask resolver key behind else return .ok none
      | r => return r
  | .context own .parentFirst :: behind => own.within do
      match ← (do if ← isHeld behind then ask resolver key behind else return .ok none) with
      | .ok none => return own.find key
      | r => return r

/-- Own matches before or after inherited ones. -/
def merge (order : ResolutionOrder) (own : Option Artifact) (inherited : List Artifact) :
    List Artifact :=
  match order with
  | .childFirst => own.toList ++ inherited
  | .parentFirst => inherited ++ own.toList

/-- Every match in the order of the chain; `resolver` answers for a resolver. -/
def askAll
    (resolver : Option Holding → ArtifactKey → Program (Except NamespaceError (List Artifact)))
    (key : ArtifactKey) : List Layer → Program (Except NamespaceError (List Artifact))
  | [] => return .ok []
  | .host own :: _ => return (own.find key).map Option.toList
  | .resolver _ host :: _ => resolver host key
  | .context own order :: behind => own.within do
      match own.find key with
      | .error e => return .error e
      | .ok mine =>
        match ← (do if ← isHeld behind then askAll resolver key behind else return .ok []) with
        | .error e => return .error e
        | .ok inherited => return .ok (merge order mine inherited)

/-! ## Through a resolver -/

/-- The source that a resolver stands for right now. -/
def pick (active : Option String) (host : Option Holding) : Program (Option Source) := do
  match active with
  | none => return host.map .ofHost
  | some name =>
    match ← perform (.boundTo name) with
    | some c => return some c.source
    | none => return host.map .ofHost

/-- The chain of a bound context holds no resolver. -/
def askBound (key : ArtifactKey) (s : Source) : Program Found :=
  ask (fun _ _ => return .ok none) key s.layers

def askAllBound (key : ArtifactKey) (s : Source) :
    Program (Except NamespaceError (List Artifact)) :=
  askAll (fun _ _ => return .ok []) key s.layers

def askResolver (active : Option String) (host : Option Holding) (key : ArtifactKey) :
    Program Found := do
  match ← pick active host with
  | some s => askBound key s
  | none => return .ok none

def askAllResolver (active : Option String) (host : Option Holding) (key : ArtifactKey) :
    Program (Except NamespaceError (List Artifact)) := do
  match ← pick active host with
  | some s => askAllBound key s
  | none => return .ok []

end Chain

/-! ## Look-ups -/

namespace Source

/-- A miss is reported for the source that was searched. -/
def orNotFound (key : ArtifactKey) (searched : ContextId) : Found → Except NamespaceError Artifact
  | .ok (some a) => .ok a
  | .ok none => .error (.artifactNotFound key searched)
  | .error e => .error e

/-- The first match; `active` is the namespace that is active on this thread. A resolver reports a
miss for the source it stands for. -/
def lookup (active : Option String) (s : Source) (key : ArtifactKey) :
    Program (Except NamespaceError Artifact) := do
  match s.head with
  | .resolver id host =>
    match ← Chain.pick active host with
    | some picked => return orNotFound key picked.id (← Chain.askBound key picked)
    | none => return .error (.artifactNotFound key id)
  | _ => return orNotFound key s.id (← Chain.ask (Chain.askResolver active) key s.layers)

/-- Every match along the chain. -/
def lookupAll (active : Option String) (s : Source) (key : ArtifactKey) :
    Program (Except NamespaceError (List Artifact)) :=
  Chain.askAll (Chain.askAllResolver active) key s.layers

/-- The delegate, if somebody holds it. -/
def parent (s : Source) : Program (Option Source) := do
  match s.head.delegates, s.behind with
  | true, l :: behind =>
    if ← perform (.isHeld l.id) then return some ⟨l, behind⟩ else return none
  | _, _ => return none

end Source

namespace Context

variable (active : Option String) (c : Context)

def resolve (id : String) : Program (Except NamespaceError Artifact) :=
  c.source.lookup active (.code id)

def enumerate (id : String) : Program (Except NamespaceError (List Artifact)) :=
  c.source.lookupAll active (.code id)

def findResource (path : String) : Program (Except NamespaceError Artifact) :=
  c.source.lookup active (.data path)

def findResources (path : String) : Program (Except NamespaceError (List Artifact)) :=
  c.source.lookupAll active (.data path)

/-- From the context's own entries only. -/
def findLocal (key : ArtifactKey) : Program Found :=
  c.own.within (return c.own.find key)

end Context

/-! ## Links -/

/-- The results in turn, up to the first failure. -/
def collect {α β : Type} (f : α → Program (Except NamespaceError β)) :
    List α → Program (Except NamespaceError (List β))
  | [] => return .ok []
  | x :: xs => do
    match ← f x with
    | .error e => return .error e
    | .ok y =>
      match ← collect f xs with
      | .error e => return .error e
      | .ok ys => return .ok (y :: ys)

/-- The source in a chain that has a given identity, the walk ending at what delegates no more. -/
def Chain.findSource (id : ContextId) : List Layer → Program (Option Source)
  | [] => return none
  | l :: behind => do
    if ← perform (.isHeld l.id) then
      if l.id = id then return some ⟨l, behind⟩
      else if l.delegates then findSource id behind
      else return none
    else return none

/-- **The units that an artifact links to**, looked up in the source that defined it. -/
def Context.resolveLinks (active : Option String) (c : Context) (a : Artifact) :
    Program (Except NamespaceError (List Artifact)) := do
  if a.origin.context = c.id then
    collect (c.resolve active) a.links
  else
    match ← Chain.findSource a.origin.context c.behind with
    | some s => collect (fun link => s.lookup active (.code link)) a.links
    | none => return .error (.artifactNotFound a.key c.id)

/-! ## Retiring -/

namespace Context

def closing (c : Context) (inFlight : Nat) : Event :=
  ⟨.debug, "nsload::context", "Context shutting down",
    [("namespace", .text c.name), ("context", .text c.id.text), ("in_flight", .number inFlight)]⟩

def closed (c : Context) : Event :=
  ⟨.debug, "nsload::context", "Context disposed",
    [("namespace", .text c.name), ("context", .text c.id.text)]⟩

/-- Takes the context out of use and waits for the resolutions inside it; does nothing if somebody
else has begun to retire it. -/
def beginShutdown (c : Context) : Program Bool := do
  match ← perform (.beginClose c.id) with
  | some n =>
    perform (.report (c.closing n))
    perform (.awaitDrained c.id)
    return true
  | none => return false

def finishShutdown (c : Context) : Program Unit := do
  if ← perform (.finishClose c.id) then
    perform (.report c.closed)

def shutdown (c : Context) : Program Unit := do
  let _ ← c.beginShutdown
  c.finishShutdown

end Context

end Tenancy
