import Tenancy.Session.Basic

/-!
# Session/Run — commands carried out
-/

namespace Tenancy

/-! ## Descriptions -/

/-- A description of a context that has its fingerprint in short. -/
def Context.describe (c : Context) (state : ContextState) (short : String) : String :=
  s!"IsolatedCodeContext \x7b id: ContextId({c.id.number}), namespace: " ++ Text.quoted c.name ++
    ", order: " ++ c.order.title ++ s!", entries: {c.own.entries.size}, state: " ++ state.title ++
    ", fingerprint: " ++ Text.quoted short ++ " \x7d"

def Registry.describe (size : Nat) (r : RegistrySettings) : String :=
  "NamespaceRegistry \x7b namespaces: " ++ toString size ++ ", default_order: " ++
    r.defaultOrder.title ++ ", host: " ++
    (match r.host with
    | some h => "Some(" ++ Text.quoted h.name ++ ")"
    | none => "None") ++ " \x7d"

namespace Session

open Program (perform)

variable (s : Session)

def withContext (handle : String) (f : Context → Reply × Session) : Reply × Session :=
  match s.contexts.get? handle with
  | some c => f c
  | none => (.unknown, s)

def withRegistry (f : RegistrySettings → Reply × Session) : Reply × Session :=
  match s.registry with
  | some r => f r
  | none => (.unknown, s)

def withService (f : Service → Reply × Session) : Reply × Session :=
  match s.service with
  | some v => f v
  | none => (.unknown, s)

/-- Runs a program and answers with what it gives. -/
def answerWith {α : Type} (f : α → Reply) (p : Program α) : Reply × Session :=
  let (a, s) := s.exec p
  (f a, s)

/-! ## Building sources -/

/-- Overwrites stored payloads of entries that are there. -/
def corrupted (m : ArtifactMap) : List (ArtifactKey × Bytes) → ArtifactMap
  | [] => m
  | (key, payload) :: rest =>
    match m.get? key with
    | some e => corrupted (m.insert key { e with payload }) rest
    | none => corrupted m rest

/-- Takes definitions apart, then does something with the entries. -/
def extracting {α : Type} (x : ExtractorSettings) (ds : List Definition)
    (f : ArtifactMap → Program α) : Program (Except NamespaceError α) := do
  Registry.reportAll (extractAllReports x ds)
  match extractAll x ds with
  | .ok m => return .ok (← f m)
  | .error e => return .error e

def buildContext (plan : Blueprint) (behind : List Layer) :
    Program (Except NamespaceError Context) :=
  extracting plan.extractor plan.resources fun m => do
    let id ← perform .allocate
    return ⟨⟨id, plan.name, corrupted m plan.corrupt, plan.materializer⟩, plan.order, behind⟩

def buildStatic (label : String) (ds : List Definition) (materializer : Materializer) :
    Program (Except NamespaceError Holding) :=
  extracting {} ds fun m => do
    let id ← perform .allocate
    return ⟨id, label, m, materializer⟩

def build (handle : String) (plan : Blueprint) (behind : List Layer) : Reply × Session :=
  match s.exec (buildContext plan behind) with
  | (.ok c, s) => (.id (some c.id), { s with contexts := s.contexts.insert handle c })
  | (.error e, s) => (.failed (.namespace e), s)

/-! ## Commands without a body -/

/-- Drops whatever goes by a name. -/
def drop (handle : String) : Reply × Session :=
  (.flag (s.contexts.contains handle || s.statics.contains handle || s.snapshots.contains handle),
    { s with
      contexts := s.contexts.erase handle
      statics := s.statics.erase handle
      snapshots := s.snapshots.erase handle })

def linksOf (c : Context) (key : ArtifactKey) (via : Source) : Reply × Session :=
  match s.exec (via.lookup s.activeName key) with
  | (.error e, s) => (.lookupFailed e, s)
  | (.ok a, s) => s.answerWith (.ofExcept .artifacts) (c.resolveLinks s.activeName a)

/-- Opens a guard on a context. -/
def enterContext (c : Context) (guard : String) : Session :=
  let (_, s) := Activation.push c s
  { s with guards := s.guards.insert guard c.name }

def closeGuard (guard : String) (f : String → Session → Reply × Session) : Reply × Session :=
  match s.guards.get? guard with
  | some name => f name { s with guards := s.guards.erase guard }
  | none => (.unknown, s)

/-- What a fresh thread sees before, while and after a snapshot is active on it. -/
def visit (a : ActivationSnapshot) (id : Option String) : Reply × Session :=
  let s := s.noteReports true
  let fresh : Thread Plugin.AnyBackend := ⟨{}, s.world⟩
  let body (t : Thread Plugin.AnyBackend) :=
    match id, t.stack.current with
    | some id, some c =>
      let (r, w) := (c.resolve t.stack.currentName id).run t.world
      (Ending.returned (Active.of t.stack, some r), { t with world := w })
    | _, _ => (.returned (Active.of t.stack, none), t)
  match a.call body fresh with
  | (.returned (during, resolved), t) =>
    (.thread (Active.of fresh.stack) during resolved (Active.of t.stack),
      (s.withWorld t.world).noteReports false)
  | (.panicked m, _) => (.failed (.panic m), s)

def info (c : Context) : Reply × Session :=
  s.answerWith (fun parent => .info c (s.world.life c.id).state (parent.map Source.id))
    c.source.parent

/-- Carries out a command that has no body. -/
def simple (command : Command) : Reply × Session :=
  let active := s.activeName
  match command with
  | .add name ds none => s.withService fun v =>
    s.answerWith (.ofExcept fun () => .flag true) (v.add name ds)
  | .add name ds (some order) => s.withRegistry fun r =>
    s.answerWith (.ofExcept fun () => .flag true) (Registry.addWithOrder r name ds order)
  | .apply config => s.withRegistry fun r =>
    s.answerWith (.ofExcept .flag) (Registry.apply r s.tree config)
  | .remove name => s.withService fun v => s.answerWith .flag (v.remove name)
  | .has name => s.withService fun v => (.flag (v.has s.world name), s)
  | .isDefaultDefined => s.withService fun v => (.flag (v.isDefaultDefined s.world), s)
  | .isEnabled => s.withService fun v => (.flag v.isEnabled, s)
  | .size => s.withRegistry fun r =>
    (.size s.world.bound.size r.defaultOrder (r.host.map Holding.name), s)
  | .list => s.withRegistry fun _ => (.listing s.world.bound.pairs, s)
  | .describe => s.withRegistry fun r =>
    (.text (some (Registry.describe s.world.bound.size r)), s)
  | .settings => s.withRegistry fun r =>
    s.answerWith (fun es => .settings r.extractor r.bridge es.length) (perform .entries)
  | .dropRegistry => (.flag true, { s with registry := none, service := none, resolver := none })
  | .hold name handle => s.withService fun v =>
    let found := v.contextFor s.world name
    (.id (found.map Context.id),
      match handle, found with
      | some h, some c => { s with contexts := s.contexts.insert h c }
      | some h, none => { s with contexts := s.contexts.erase h }
      | none, _ => s)
  | .build handle plan =>
    match plan.parent with
    | none => s.build handle plan []
    | some p =>
      match s.source? p with
      | some src => s.build handle plan src.layers
      | none => (.unknown, s)
  | .addStatic handle label ds materializer =>
    match s.exec (buildStatic label ds materializer) with
    | (.ok h, s) =>
      (.holding h.id h.entries.size, { s with statics := s.statics.insert handle h })
    | (.error e, s) => (.failed (.namespace e), s)
  | .addResolver => s.withRegistry fun _ =>
    let (id, s) := s.exec (perform .allocate)
    (.id (some id), { s with resolver := some id })
  | .pick =>
    match s.resolverSource with
    | some ⟨.resolver _ host, _⟩ =>
      s.answerWith (fun p => .source (p.map fun x => (x.id, x.head.label))) (Chain.pick active host)
    | _ => (.unknown, s)
  | .drop handle => s.drop handle
  | .info handle => s.withContext handle s.info
  | .lookup src key =>
    match s.source? src with
    | some x => s.answerWith (.ofExcept fun a => .artifact (some a)) (x.lookup active key)
    | none => (.unknown, s)
  | .lookupAll src key =>
    match s.source? src with
    | some x => s.answerWith (.ofExcept .artifacts) (x.lookupAll active key)
    | none => (.unknown, s)
  | .findLocal handle key => s.withContext handle fun c =>
    s.answerWith (.ofExcept .artifact) (c.findLocal key)
  | .contains handle key => s.withContext handle fun c => (.flag (c.own.entries.contains key), s)
  | .links handle key via => s.withContext handle fun c =>
    match s.source? (via.getD handle) with
    | some x => s.linksOf c key x
    | none => (.unknown, s)
  | .shutdown handle => s.withContext handle fun c =>
    let (_, s) := s.exec c.shutdown
    (.state (s.world.life c.id).state, s)
  | .sourceInfo src =>
    match s.source? src with
    | some x =>
      s.answerWith (fun p => .sourceInfo x.id x.head.label (p.map Source.id)) x.parent
    | none => (.unknown, s)
  | .enlist handle => s.withContext handle fun c => s.withRegistry fun r =>
    s.answerWith .number (Bridge.enlist r.bridge active c)
  | .cleanUp handle name => s.withContext handle fun c => s.withRegistry fun _ =>
    s.answerWith .number (Bridge.cleanup c.id name)
  | .entries => s.answerWith .entries (perform .entries)
  | .providers service =>
    s.answerWith (fun es => .entries (es.filter fun e => e.registration.service == service))
      (perform .entries)
  | .owned handle => s.withContext handle fun c =>
    s.answerWith (fun es => .entries (es.filter fun e => e.registration.owner = c.id))
      (perform .entries)
  | .arm trap context =>
    (.flag true, { s with
      trap := some { trap with context := context.bind s.contexts.get?, registry := s.registry } })
  | .settle =>
    let s := { s.letWaiting with trap := none }
    (.notes s.notes, { s with notes := [] })
  | .active => (.active (.of s.thread.stack), s)
  | .setup tag => s.withService fun v =>
    let (r, s) := v.setup tag s
    (.ofExcept .flag r, s)
  | .cleanup tag => s.withService fun v =>
    let (r, s) := v.cleanup tag s
    (.ofExcept .flag r, s)
  | .scopedContext tag => s.withService fun v =>
    (.ofExcept (fun c => .id (c.map Context.id)) (v.scopedContext s.world tag), s)
  | .push handle => s.withContext handle fun c =>
    let (n, s) := Activation.push c s
    (.number n, s)
  | .pop name =>
    match Activation.pop name s with
    | (.ok n, s) => (.number n, s)
    | (.error e, s) => (.failed (.activation e), s)
  | .clear =>
    let (n, s) := Activation.clear s
    (.number n, s)
  | .enter handle guard => s.withContext handle fun c =>
    (.text (some c.name), s.enterContext c guard)
  | .exit guard => s.closeGuard guard fun name s =>
    match Activation.pop name s with
    | (.ok _, s) => (.number 0, s)
    | (.error e, s) => (.failed (.activation e), s)
  | .dropGuard guard => s.closeGuard guard fun name s =>
    match Activation.dropGuard name (.returned ()) s with
    | (.returned (), s) => (.flag true, s)
    | (.panicked m, s) => (.failed (.panic m), s)
  | .capture handle empty =>
    let a := if empty then {} else ActivationSnapshot.capture s
    (.captured a, { s with snapshots := s.snapshots.insert handle a })
  | .enterSnapshot handle guard =>
    match s.snapshots.get? handle with
    | some a =>
      match a.context with
      | some c => (.text (some c.name), s.enterContext c guard)
      | none => (.text none, s)
    | none => (.unknown, s)
  | .onThread handle id =>
    match s.snapshots.get? handle with
    | some a => s.visit a id
    | none => (.unknown, s)
  | .callTagged .. | .callContext .. | .callSnapshot .. | .panic _ => (.unknown, s)

/-! ## Commands with a body -/

/-- A session inside a scope, with the answers given there. -/
structure Inside where
  session : Session
  answers : List Answer

instance : Threaded Plugin.AnyBackend Inside where
  thread i := i.session.thread
  withThread t i := { i with session := { i.session with thread := t } }
  thread_withThread _ _ := rfl

/-- The session after a call, which holds nothing more. -/
def outside (inner : Session) : Session :=
  { inner with underWay := s.underWay, serving := s.serving }

/-- The answer to a scope that was entered. -/
def leave : Ending Unit × Inside → Reply × Session
  | (ending, i) =>
    let s := s.outside i.session
    let failure :=
      match ending with
      | .returned () => none
      | .panicked m => some (.panic m)
    (.scope failure i.answers (.of s.thread.stack), s)

/-- A context is held while a call in its scope is under way. -/
def holding (c : Context) : Inside :=
  ⟨{ s with underWay := c :: s.underWay }, []⟩

/-- What comes after every command: those who wait go on, and the reports are handed over. -/
def finish (r : Reply × Session) : Answer × Session :=
  let (reports, s) := r.2.letWaiting.takeReports
  ((r.1, reports), s)

mutual

/-- **Carries out a command.** -/
def run (command : Command) (s : Session) : Reply × Session :=
  let s := s.refresh
  match command with
  | .callTagged tag body => s.withService fun v =>
    let held := (v.scopedContext s.world tag).toOption.join.toList
    let serving := v.registry? <|> s.serving
    let inside := { s with underWay := held ++ s.underWay, serving }
    match v.call tag (fun i => runBody body i) ⟨inside, []⟩ with
    | (.error e, i) => (.scope (some (.namespace e)) [] (.of s.thread.stack), s.outside i.session)
    | (.ok ending, i) => s.leave (ending, i)
  | .callContext handle body => s.withContext handle fun c =>
    s.leave (Activation.call c (fun i => runBody body i) (s.holding c))
  | .callSnapshot handle body =>
    match s.snapshots.get? handle with
    | some a => s.leave (a.call (fun i => runBody body i)
        ⟨{ s with underWay := a.context.toList ++ s.underWay }, []⟩)
    | none => (.unknown, s)
  | command => s.simple command

/-- Carries out commands in turn, up to a panic. The command that panics has no answer. -/
def runBody (body : List Command) (i : Inside) : Ending Unit × Inside :=
  match body with
  | [] => (.returned (), i)
  | .panic m :: _ => (.panicked m, i)
  | command :: rest =>
    let (reply, s) := run command i.session
    match reply.uncaught? with
    | some m => (.panicked m, { i with session := s })
    | none =>
      let (answer, s) := finish (reply, s)
      runBody rest ⟨s, i.answers ++ [answer]⟩

end

/-- Carries out commands in turn; a panic that no scope catches leaves no answers. -/
def runAll (commands : List Command) (s : Session) : Ending (List Answer) :=
  match runBody commands ⟨s, []⟩ with
  | (.returned (), i) => .returned i.answers
  | (.panicked m, _) => .panicked m

end Session

end Tenancy
