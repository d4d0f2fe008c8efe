import Tenancy.Plugin.Faulty
import Tenancy.Service
import Tenancy.Session.Answer
import Tenancy.Session.Command

/-!
# Session/Basic — one thread at work, with named handles

A session holds what its commands gave it under names, and nothing else: a source that no handle, no
activation and no registry holds is gone, and is nobody's delegate any more. Programs run to their
end, except that a trap lets somebody else's program in between; that one stops where it has to wait
and goes on when the command is over.
-/

namespace Tenancy

structure Session where
  thread : Thread Plugin.AnyBackend
  tree : Files.Tree
  service : Option Service
  registry : Option RegistrySettings
  contexts : Table String Context := ∅
  statics : Table String Holding := ∅
  resolver : Option ContextId := none
  /-- Open guards, each with the name that it remembers. -/
  guards : Table String String := ∅
  snapshots : Table String ActivationSnapshot := ∅
  /-- The contexts of the scoped calls that are under way. -/
  underWay : List Context := []
  /-- The registry that a scoped call of the service works on. -/
  serving : Option RegistrySettings := none
  trap : Option Session.Trap := none
  notes : List (Option Session.Note) := []
  /-- What was reported and not yet handed over, the latest first. -/
  reports : List Session.Report := []
  /-- Programs of others that have to wait. -/
  waiting : List (Program Unit) := []

namespace Session

instance : Threaded Plugin.AnyBackend Session where
  thread := Session.thread
  withThread t s := { s with thread := t }
  thread_withThread _ _ := rfl

variable (s : Session)

def world : World Plugin.AnyBackend := s.thread.world

def withWorld (w : World Plugin.AnyBackend) : Session :=
  { s with thread := { s.thread with world := w } }

/-- The namespace that is active. -/
def activeName : Option String := s.thread.stack.currentName

/-! ## What is held -/

/-- The registry lives as long as the service on top of it, a call of the service that is under
way, or a trap that was set with it. -/
def liveSettings : Option RegistrySettings :=
  s.registry <|> s.service.bind Service.registry? <|> s.serving <|> s.trap.bind Trap.registry

def heldByRegistry : List ContextId :=
  match s.liveSettings with
  | some r => s.world.bound.values.map Context.id ++ r.host.toList.map Holding.id
  | none => []

/-- The sources that somebody holds. -/
def held : List ContextId :=
  s.contexts.values.map Context.id ++ s.statics.values.map Holding.id ++ s.resolver.toList ++
    s.thread.stack.frames.map (fun f => f.context.id) ++
    s.snapshots.values.filterMap (fun a => a.context.map Context.id) ++
    (s.trap.bind Trap.context).toList.map Context.id ++ s.underWay.map Context.id ++
    s.heldByRegistry

/-- Finds out which sources are gone. -/
def refresh : Session :=
  let held := s.held
  let all := (List.range s.world.nextId).map ContextId.mk
  s.withWorld { s.world with gone := all.filter fun c => !held.contains c }

/-! ## Names -/

def resolverSource : Option Source :=
  match s.resolver, s.liveSettings with
  | some id, some r => some ⟨.resolver id r.host, []⟩
  | _, _ => none

def source? (name : String) : Option Source :=
  match s.contexts.get? name with
  | some c => some c.source
  | none =>
    if name == "resolver" then s.resolverSource else (s.statics.get? name).map Source.ofHost

/-! ## Reports -/

/-- Notes down what was reported last, by the session's own thread or by another. -/
def noteReports (own : Bool) : Session :=
  { s.withWorld { s.world with events := [] } with
    reports := s.world.events.map (⟨·, own⟩) ++ s.reports }

/-- What was reported since it was last asked for, in order. -/
def takeReports : List Report × Session :=
  let s := s.noteReports true
  (s.reports.reverse, { s with reports := [] })

/-! ## Running programs -/

/-- Lets somebody else run up to where they have to wait. -/
def letOther (p : Program Unit) : Session :=
  let s := s.noteReports true
  let (rest, w) := p.advance s.world
  let s := (s.withWorld w).noteReports false
  if rest.isDone then s else { s with waiting := s.waiting ++ [rest] }

/-- Lets those who had to wait go on. -/
def letWaiting : Session :=
  s.waiting.foldl letOther { s with waiting := [] }

def Intrusion.program (name : String) (c : Context) : Intrusion → Program Unit
  | .nothing => return ()
  | .removeNamespace => do
    let _ ← Registry.remove name
  | .shutdown => c.shutdown

/-- A trap goes off. -/
def spring (t : Trap) : Session :=
  let s := { s with trap := none }
  match t.context <|> s.world.bound.get? t.name with
  | none => { s with notes := s.notes ++ [none] }
  | some c =>
    let s := s.letOther (t.act.program t.name c)
    let (resolved, w) := (c.resolve s.activeName t.id).run s.world
    { s.withWorld w with notes := s.notes ++ [some ⟨(w.life c.id).state, resolved⟩] }

/-- The call to the plugin registry that an action is. -/
def pluginCall? : Action → Option PluginCall
  | .register _ => some .register
  | .deregister _ => some .deregister
  | _ => none

/-- Lets a trap go off if it waits for this action. -/
def beforeAction (a : Action) : Session :=
  match s.trap with
  | some t => if pluginCall? a = some t.on then s.spring t else s
  | none => s

/-- Runs a program to its end. -/
def exec {α : Type} : Program α → Session → α × Session
  | .done a, s => (a, s)
  | .act a next, s =>
    let s := s.beforeAction a
    let (answer, w) := s.world.perform a
    exec (next answer) (s.withWorld w)

end Session

end Tenancy
