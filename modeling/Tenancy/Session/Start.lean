import Tenancy.Config.Startup
import Tenancy.Session.Run

/-!
# Session/Start — where a session begins

A session begins with a registry that was put together by hand or from a configuration, or with a
service alone. Its host is built first; if that or the configuration fails there is no session.
-/

namespace Tenancy.Session

/-- What the commands of a session work on. -/
inductive Footing where
  /-- A registry with these settings and the host of the session. -/
  | builder (s : RegistrySettings)
  /-- A registry with the default settings and no host. -/
  | plain
  /-- A service that is switched off. -/
  | off
  | registryOf (c : Config)
  /-- A service from a configuration, without the registry below it. -/
  | serviceOf (c : Config)

/-- The plugin registry of a session. -/
inductive PluginKind where
  | directory
  | readOnly
  | sticky
  deriving Repr, DecidableEq

def PluginKind.backend : PluginKind → Plugin.AnyBackend
  | .directory => .directory ∅
  | .readOnly => .readOnly {}
  | .sticky => .sticky ⟨∅⟩

structure HostPlan where
  label : String
  resources : List Definition
  materializer : Materializer

structure Plan where
  footing : Footing := .builder {}
  host : Option HostPlan := none
  plugins : PluginKind := .directory
  tree : Files.Tree := .empty

/-- Why a session cannot begin. -/
inductive StartFault where
  | host (e : NamespaceError)
  | footing (e : NamespaceError)

def StartFault.cause : StartFault → NamespaceError
  | .host e => e
  | .footing e => e

/-- Before anything has happened. -/
def blank (plan : Plan) : Session where
  thread := ⟨{}, .initial plan.plugins.backend⟩
  tree := plan.tree
  service := none
  registry := none

def withFooting (s : Session) (r : RegistrySettings) : Session :=
  { s with service := some (.registry r), registry := some r }

def found (footing : Footing) (host : Option Holding) (s : Session) :
    Option StartFault × Session :=
  match footing with
  | .builder r => (none, s.withFooting { r with host })
  | .plain => (none, s.withFooting {})
  | .off => (none, { s with service := some .off })
  | .registryOf c =>
    match s.exec (c.startRegistry s.tree host) with
    | (.ok r, s) => (none, s.withFooting r)
    | (.error e, s) => (some (.footing e), s)
  | .serviceOf c =>
    match s.exec (c.startService s.tree host) with
    | (.ok v, s) => (none, { s with service := some v })
    | (.error e, s) => (some (.footing e), s)

/-- **Begins a session**; the failure, if it cannot, and what was reported. -/
def start (plan : Plan) : (Option StartFault × List Report) × Session :=
  let s := blank plan
  let (failure, s) :=
    match plan.host with
    | none => found plan.footing none s
    | some h =>
      match s.exec (buildStatic h.label h.resources h.materializer) with
      | (.ok holding, s) =>
        found plan.footing (some holding) { s with statics := s.statics.insert "host" holding }
      | (.error e, s) => (some (.host e), s)
  let (reports, s) := s.takeReports
  ((failure, reports), s)

/-- **A session from its beginning to its end**: what came of its beginning, and the answers, none
if it cannot begin. A panic that no scope catches leaves nothing. -/
def play (plan : Plan) (commands : List Command) :
    Ending ((Option StartFault × List Report) × List Answer) :=
  let (beginning, s) := start plan
  match beginning.1 with
  | some f =>
    match f.cause.uncaught? with
    | some m => .panicked m
    | none => .returned (beginning, [])
  | none =>
    match runAll commands s with
    | .returned answers => .returned (beginning, answers)
    | .panicked m => .panicked m

end Tenancy.Session
