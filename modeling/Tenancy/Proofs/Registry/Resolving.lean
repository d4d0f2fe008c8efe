import Tenancy.Activation.Stack
import Tenancy.Proofs.Context.Links
import Tenancy.Proofs.Registry.Isolation

/-!
# Proofs/Registry/Resolving — a resolver never meets a context that is out of use

    resolver  =  what the active name is bound to,  or the host

A context leaves its name before it leaves its use, so in every state between two actions of any
threads whatever a name is bound to is in use (`Registry.Coherent.bound`).  A resolver goes by the
name that is active, not by the context that was activated under it: frames that hold contexts long
replaced do not matter to it (`Registry.resolver_answers_bound`).
-/

namespace Tenancy

open Program (perform)

/-! ## Chains without resolvers -/

namespace Chain

variable {key : ArtifactKey} {layers : List Layer}

/-- What would answer for a resolver is not asked where there is none. -/
theorem ask_of_plain (hp : ∀ l ∈ layers, l.isPlain)
    (resolver resolver' : Option Holding → ArtifactKey → Program Found) :
    ask resolver key layers = ask resolver' key layers := by
  induction layers with
  | nil => rfl
  | cons l behind ih =>
    obtain ⟨hl, hbehind⟩ := List.forall_mem_cons.1 hp
    cases l with
    | host own => rfl
    | resolver id host => exact hl.elim
    | context own order => cases order <;> simp only [ask, ih hbehind]

theorem askAll_of_plain (hp : ∀ l ∈ layers, l.isPlain)
    (resolver resolver' :
      Option Holding → ArtifactKey → Program (Except NamespaceError (List Artifact))) :
    askAll resolver key layers = askAll resolver' key layers := by
  induction layers with
  | nil => rfl
  | cons l behind ih =>
    obtain ⟨hl, hbehind⟩ := List.forall_mem_cons.1 hp
    cases l with
    | host own => rfl
    | resolver id host => exact hl.elim
    | context own order => simp only [askAll, ih hbehind]

end Chain

namespace View

variable {v : View} {key : ArtifactKey} {chain : List Layer} {e : NamespaceError}

/-- **Where every context is in use no look-up is refused.** -/
theorem first_open {stand : Option Holding → Found} (hp : ∀ l ∈ chain, l.isPlain)
    (ho : ∀ own order, .context own order ∈ chain → v.isOpen own.id = true)
    (hf : v.first stand key chain = .error e) : e.isShutdown = false := by
  induction chain with
  | nil => cases hf
  | cons l behind ih =>
    obtain ⟨hl, hb⟩ := List.forall_mem_cons.1 hp
    have hrest := ih hb fun own order hmem => ho own order (List.mem_cons_of_mem _ hmem)
    cases l with
    | resolver id host => exact hl.elim
    | host own => exact Holding.not_shut_of_find hf
    | context own order =>
      simp only [first, ho own order List.mem_cons_self, if_true] at hf
      cases order with
      | childFirst =>
        rcases Chain.otherwise_eq_error.1 hf with hown | ⟨-, hbehind⟩
        · exact Holding.not_shut_of_find hown
        · exact hrest hbehind
      | parentFirst =>
        rcases Chain.otherwise_eq_error.1 hf with hbehind | ⟨-, hown⟩
        · exact hrest hbehind
        · exact Holding.not_shut_of_find hown

theorem every_open {stand : Option Holding → Except NamespaceError (List Artifact)}
    (hp : ∀ l ∈ chain, l.isPlain)
    (ho : ∀ own order, .context own order ∈ chain → v.isOpen own.id = true)
    (hf : v.every stand key chain = .error e) : e.isShutdown = false := by
  induction chain with
  | nil => cases hf
  | cons l behind ih =>
    obtain ⟨hl, hb⟩ := List.forall_mem_cons.1 hp
    have hrest := ih hb fun own order hmem => ho own order (List.mem_cons_of_mem _ hmem)
    cases l with
    | resolver id host => exact hl.elim
    | host own =>
      simp only [every] at hf
      cases hown : own.find key with
      | error e' =>
        rw [hown] at hf
        cases hf
        exact Holding.not_shut_of_find hown
      | ok found => rw [hown] at hf; cases hf
    | context own order =>
      simp only [every, ho own order List.mem_cons_self, if_true] at hf
      cases hown : own.find key with
      | error e' =>
        rw [hown] at hf
        cases hf
        exact Holding.not_shut_of_find hown
      | ok mine =>
        cases hbehind : v.every stand key behind with
        | error e' =>
          rw [hown, hbehind] at hf
          cases hf
          exact hrest hbehind
        | ok inherited => rw [hown, hbehind] at hf; cases hf

end View

/-! ## Sources that answer for others -/

namespace Source

variable {σ : Type} {w : World σ} {active : Option String} {key : ArtifactKey}
  {source other : Source}

/-- **Under the active name the one source answers as the other does**, whichever name is active for
that, and leaves the same world behind. -/
structure AnswersAs [Plugin.Backend σ] (w : World σ) (active : Option String) (key : ArtifactKey)
    (source other : Source) : Prop where
  lookup : ∀ active', (source.lookup active key).run w = (other.lookup active' key).run w
  lookupAll : ∀ active', (source.lookupAll active key).run w = (other.lookupAll active' key).run w

/-- A source without resolvers is in use: none of its contexts refuses. -/
structure InUse (w : World σ) (s : Source) : Prop where
  plain : ∀ l ∈ s.layers, l.isPlain
  isOpen : ∀ own order, .context own order ∈ s.layers → (w.life own.id).state = .active

theorem inUse_ofHost (w : World σ) (h : Holding) : (ofHost h).InUse w where
  plain l hl := by
    obtain rfl := List.mem_singleton.1 hl
    trivial
  isOpen own order hl := nomatch List.mem_singleton.1 hl

variable [Plugin.Backend σ]

/-- Whatever a source without resolvers is asked, no active name matters. -/
theorem lookup_of_plain (hp : ∀ l ∈ source.layers, l.isPlain) (active : Option String)
    (key : ArtifactKey) :
    source.lookup active key =
      (do return orNotFound key source.id (← Chain.askBound key source)) := by
  have hask : Chain.ask (Chain.askResolver active) key source.layers = Chain.askBound key source :=
    Chain.ask_of_plain hp _ _
  obtain ⟨head, behind⟩ := source
  cases head with
  | context own order => exact congrArg (· >>= _) hask
  | host own => exact congrArg (· >>= _) hask
  | resolver id host => exact absurd rfl (head_ne hp id host)

theorem InUse.not_shut (h : source.InUse w) (active : Option String) (key : ArtifactKey) :
    (∀ e, ((source.lookup active key).run w).1 = .error e → e.isShutdown = false) ∧
      ∀ e, ((source.lookupAll active key).run w).1 = .error e → e.isShutdown = false := by
  have hp : ∀ l ∈ w.view.reach source.layers, l.isPlain :=
    fun l hl => h.plain l (View.mem_of_mem_reach hl)
  have ho : ∀ own order, .context own order ∈ w.view.reach source.layers →
      w.view.isOpen own.id = true :=
    fun own order hl => decide_eq_true (h.isOpen own order (View.mem_of_mem_reach hl))
  refine ⟨fun e he => ?_, fun e he => ?_⟩
  · rw [(reads_lookup active key (head_ne h.plain) σ w rfl).1] at he
    rcases hfirst : w.view.first (w.view.resolved active key) key (w.view.reach source.layers) with
      e' | _ | a <;> rw [hfirst] at he <;> cases he
    · exact View.first_open hp ho hfirst
    · rfl
  · rw [(reads_lookupAll active source key σ w rfl).1] at he
    exact View.every_open hp ho he

end Source

namespace Registry

/-! ## Resolvers -/

/-- The resolver of a registry, under an identity of its own. -/
def resolver (s : RegistrySettings) (id : ContextId) : Source :=
  ⟨.resolver id s.host, []⟩

variable {σ : Type} {s : RegistrySettings} {w : World σ} {id : ContextId}
  {active : Option String} {key : ArtifactKey}

/-- What a bound context asks is in use. -/
theorem Coherent.inUse_of_bound {mine : ContextId → Prop} {gs : List Duty} {name : String}
    {c : Context} (h : Coherent s mine gs w) (hc : w.bound.get? name = some c) :
    c.source.InUse w where
  plain := h.isPlain_layers hc
  isOpen own order hl := by
    obtain ⟨hactive, id, entries, order', rfl⟩ := h.bound name c hc
    rcases List.mem_cons.1 hl with hl | hl
    · cases hl
      exact hactive
    · obtain ⟨host, -, hl⟩ := mem_hostLayers hl
      cases hl

/-- What a resolver picks is in use, and what it holds is the bound context's or the host's. -/
theorem Coherent.picked {mine : ContextId → Prop} {gs : List Duty} (h : Coherent s mine gs w)
    {picked : Source} (hpick : w.view.pick active s.host = some picked) :
    picked.InUse w ∧ ∀ own, picked.Holds own →
      (∃ c, active.bind w.bound.get? = some c ∧ own = c.own) ∨ s.host = some own := by
  rw [View.pick, World.view] at hpick
  cases hbound : active.bind w.bound.get? with
  | some c =>
    rw [hbound] at hpick
    cases hpick
    obtain ⟨name, -, hc⟩ := Option.bind_eq_some_iff.1 hbound
    exact ⟨h.inUse_of_bound hc, fun own hown =>
      (h.holds_of_bound hc hown).imp_left fun he => ⟨c, rfl, he⟩⟩
  | none =>
    rw [hbound] at hpick
    obtain ⟨host, hhost, rfl⟩ := Option.map_eq_some_iff.1 hpick
    refine ⟨Source.inUse_ofHost w host, fun own hown => .inr ?_⟩
    rcases hown with ⟨order, hl⟩ | hl
    · cases List.mem_singleton.1 hl
    · cases List.mem_singleton.1 hl
      exact hhost

variable [Plugin.Backend σ]

theorem lookup_resolver (active : Option String) :
    (resolver s id).lookup active key = (do
      match ← Chain.pick active s.host with
      | some picked => return Source.orNotFound key picked.id (← Chain.askBound key picked)
      | none => return .error (.artifactNotFound key id)) := rfl

theorem lookupAll_resolver (active : Option String) :
    (resolver s id).lookupAll active key = (do
      match ← Chain.pick active s.host with
      | some picked => Chain.askAllBound key picked
      | none => return .ok []) := rfl

theorem run_pick (active : Option String) (host : Option Holding) (w : World σ) :
    (Chain.pick active host).run w = (w.view.pick active host, w) := by
  cases active with
  | none => rfl
  | some name =>
    have hanswer : (perform (.boundTo name)).run w = (w.bound.get? name, w) := rfl
    rw [Chain.pick, Program.run_bind, hanswer, View.pick, Option.bind_some, World.view]
    cases w.bound.get? name <;> rfl

/-- What is picked is asked. -/
theorem answersAs_picked {picked : Source} (hp : ∀ l ∈ picked.layers, l.isPlain)
    (hpick : w.view.pick active s.host = some picked) :
    (resolver s id).AnswersAs w active key picked where
  lookup active' := by
    rw [lookup_resolver, Program.run_bind, run_pick, hpick, Source.lookup_of_plain hp]
  lookupAll active' := by
    rw [lookupAll_resolver, Program.run_bind, run_pick, hpick]
    exact congrArg (Program.run · w) (Chain.askAll_of_plain hp _ _)

/-- Where nothing is picked nothing is found. -/
theorem run_unpicked (hpick : w.view.pick active s.host = none) :
    ((resolver s id).lookup active key).run w = (.error (.artifactNotFound key id), w) ∧
      ((resolver s id).lookupAll active key).run w = (.ok [], w) := by
  rw [lookup_resolver, lookupAll_resolver, Program.run_bind, Program.run_bind, run_pick, hpick]
  exact ⟨rfl, rfl⟩

/-! ## Errands -/

/-- What a thread does with a registry, its contexts and its resolvers. -/
inductive Errand where
  | call (c : Call)
  | lookup (active : Option String) (source : Source) (key : ArtifactKey)
  | lookupAll (active : Option String) (source : Source) (key : ArtifactKey)
  | findLocal (c : Context) (key : ArtifactKey)
  | resolveLinks (active : Option String) (c : Context) (a : Artifact)
  /-- The bridge registers the plugins of the context. -/
  | enlist (b : BridgeSettings) (active : Option String) (c : Context)

def Errand.program (s : RegistrySettings) : Errand → Program Unit
  | .call c => do
    let _ ← c.program s
  | .lookup active source key => do
    let _ ← source.lookup active key
  | .lookupAll active source key => do
    let _ ← source.lookupAll active key
  | .findLocal c key => do
    let _ ← c.findLocal key
  | .resolveLinks active c a => do
    let _ ← c.resolveLinks active a
  | .enlist b active c => do
    let _ ← Bridge.enlist b active c

/-- Errands in turn. -/
def runErrands (s : RegistrySettings) : List Errand → Program Unit
  | [] => return ()
  | e :: es => do
    e.program s
    runErrands s es

section

variable {G : Type} {D : Discipline G} {enters : G → ContextId → G} {g : G}

theorem restores_collect {α β : Type} {f : α → Program (Except NamespaceError β)}
    (hf : ∀ x, (f x).Restores D g) (xs : List α) : (collect f xs).Restores D g := by
  induction xs with
  | nil => exact .done _
  | cons x xs ih =>
    refine (hf x).bind fun found => ?_
    cases found with
    | error e => exact .done _
    | ok y => exact ih.bind fun rest => by cases rest <;> exact .done _

theorem restores_findSource (hD : D.Welcomes enters) (id : ContextId) (layers : List Layer) :
    (Chain.findSource id layers).Restores D g := by
  induction layers with
  | nil => exact .done _
  | cons l behind ih =>
    refine Program.Restores.bind (.perform (hD.isHeld g l.id).1 (hD.isHeld g l.id).2) fun held => ?_
    split
    · split
      · exact .done _
      · split
        · exact ih
        · exact .done _
    · exact .done _

theorem restores_resolveLinks (hD : D.Welcomes enters) (active : Option String) (c : Context)
    (a : Artifact) : (c.resolveLinks active a).Restores D g := by
  rw [Context.resolveLinks]
  split
  · exact restores_collect (fun _ => c.source.restores_lookup hD active _) _
  · refine (restores_findSource hD _ _).bind fun found => ?_
    cases found with
    | none => exact .done _
    | some source => exact restores_collect (fun _ => source.restores_lookup hD active _) _

end

/-- **Whoever runs errands is responsible for nothing between them.** -/
theorem restores_runErrands (es : List Errand) :
    (runErrands s es).Restores (discipline s) .idle := by
  have hD := hosts_quietly s
  induction es with
  | nil => exact .done _
  | cons e es ih =>
    refine Program.Restores.bind ?_ fun _ => ih
    cases e with
    | call c => exact (restores_program c).bind fun _ => .done _
    | lookup active source key =>
      exact (source.restores_lookup hD.toWelcomes active key).widen.bind fun _ _ hg => .done hg
    | lookupAll active source key =>
      exact (source.restores_lookupAll hD.toWelcomes active key).widen.bind fun _ _ hg => .done hg
    | findLocal c key =>
      exact (Holding.restores_within hD.toWelcomes (.done _)).widen.bind fun _ _ hg => .done hg
    | resolveLinks active c a =>
      exact (restores_resolveLinks hD.toWelcomes active c a).widen.bind fun _ _ hg => .done hg
    | enlist b active c =>
      exact (Bridge.restores_enlist hD b).widen.bind fun _ _ hg => .done hg

/-- However the errands of several threads interleave, the contexts are in order. -/
theorem coherent_errands {w₀ : World σ} (hw : w₀.Fresh) {threads : List (List Errand)}
    {ps : List (Program Unit)}
    (hrun : Relation.ReflTransGen Program.Step (threads.map (runErrands s), w₀) (ps, w)) :
    ∃ gs, Coherent s (fun id => w₀.nextId ≤ id.number) gs w := by
  have hkeeps : List.Forall₂ (KeepsOn s) (threads.map (runErrands s))
      (List.replicate threads.length .idle) := by
    clear hrun
    induction threads with
    | nil => exact .nil
    | cons es threads ih => exact .cons (restores_runErrands es) ih
  obtain ⟨gs, -, h⟩ := (Coherent.upholds s _).run hrun hkeeps (coherent_fresh s hw threads.length)
  exact ⟨gs, h⟩

/-! ## What a resolver stands for -/

/-- The artifact was defined by what is bound to the active name, or by the host. -/
def DefinedFor (s : RegistrySettings) (w : World σ) (active : Option String) (a : Artifact) :
    Prop :=
  (∃ c, active.bind w.bound.get? = some c ∧ a.origin = c.own.origin) ∨
    ∃ host, s.host = some host ∧ a.origin = host.origin

/-- What a resolver answers is never that a context is out of use, and what it gives was defined for
the active name. -/
theorem Coherent.answers {mine : ContextId → Prop} {gs : List Duty} (h : Coherent s mine gs w)
    (id : ContextId) (active : Option String) (key : ArtifactKey) :
    (∀ e, (((resolver s id).lookup active key).run w).1 = .error e → e.isShutdown = false) ∧
    (∀ e, (((resolver s id).lookupAll active key).run w).1 = .error e → e.isShutdown = false) ∧
    (∀ a, (((resolver s id).lookup active key).run w).1 = .ok a → DefinedFor s w active a) ∧
    ∀ found, (((resolver s id).lookupAll active key).run w).1 = .ok found →
      ∀ a ∈ found, DefinedFor s w active a := by
  cases hpick : w.view.pick active s.host with
  | none =>
    obtain ⟨hone, hall⟩ : ((resolver s id).lookup active key).run w =
        (.error (.artifactNotFound key id), w) ∧ ((resolver s id).lookupAll active key).run w =
          (.ok [], w) := run_unpicked hpick
    rw [hone, hall]
    refine ⟨?_, ?_, ?_, ?_⟩
    · rintro _ ⟨⟩
      rfl
    · rintro _ ⟨⟩
    · rintro _ ⟨⟩
    · rintro _ ⟨⟩ a ha
      cases ha
  | some picked =>
    obtain ⟨hinUse, hholds⟩ := h.picked hpick
    obtain ⟨hone, hall⟩ : (resolver s id).AnswersAs w active key picked :=
      answersAs_picked hinUse.plain hpick
    rw [hone active, hall active]
    have hdefined : ∀ {a : Artifact}, (∃ own, picked.Holds own ∧ a.origin = own.origin) →
        DefinedFor s w active a := by
      rintro a ⟨own, hown, horigin⟩
      rcases hholds own hown with ⟨c, hc, rfl⟩ | hhost
      · exact .inl ⟨c, hc, horigin⟩
      · exact .inr ⟨own, hhost, horigin⟩
    exact ⟨(hinUse.not_shut active key).1, (hinUse.not_shut active key).2,
      fun a ha => hdefined (Source.origin_of_lookup hinUse.plain ha),
      fun found hf a ha => hdefined (Source.origin_of_lookupAll hinUse.plain hf ha)⟩

/-- **A resolver answers as the context that is bound to the active name**, or as the host if there
is no such context.  Any number of threads call the registry, look things up and register plugins,
and are stopped between any two actions; the frames of the stack may hold contexts that were
replaced or removed since.  The resolver never meets a context that is out of use, and what it gives
was defined by the context that is bound or by the host. -/
theorem resolver_answers_bound (s : RegistrySettings) {w₀ : World σ} (hw : w₀.Fresh)
    (threads : List (List Errand)) {ps : List (Program Unit)}
    (hrun : Relation.ReflTransGen Program.Step (threads.map (runErrands s), w₀) (ps, w))
    (id : ContextId) (stack : ActivationStack) (key : ArtifactKey) :
    let r := resolver s id
    let active := stack.currentName
    (∀ c, active.bind w.bound.get? = some c →
      (w.life c.id).state = .active ∧ r.AnswersAs w active key c.source) ∧
    (active.bind w.bound.get? = none →
      (∀ host, s.host = some host → r.AnswersAs w active key (.ofHost host)) ∧
      (s.host = none → (r.lookup active key).run w = (.error (.artifactNotFound key id), w) ∧
        (r.lookupAll active key).run w = (.ok [], w))) ∧
    (∀ e, ((r.lookup active key).run w).1 = .error e → e.isShutdown = false) ∧
    (∀ e, ((r.lookupAll active key).run w).1 = .error e → e.isShutdown = false) ∧
    (∀ a, ((r.lookup active key).run w).1 = .ok a → DefinedFor s w active a) ∧
    ∀ found, ((r.lookupAll active key).run w).1 = .ok found →
      ∀ a ∈ found, DefinedFor s w active a := by
  intro r active
  obtain ⟨gs, h⟩ := coherent_errands hw hrun
  have hanswers : ∀ picked, w.view.pick active s.host = some picked →
      r.AnswersAs w active key picked := fun picked hpick =>
    answersAs_picked (h.picked hpick).1.plain hpick
  have hunpicked : w.view.pick active s.host = none →
      (r.lookup active key).run w = (.error (.artifactNotFound key id), w) ∧
        (r.lookupAll active key).run w = (.ok [], w) := run_unpicked
  refine ⟨fun c hc => ?_, fun hnone => ⟨fun host hhost => ?_, fun hhost => ?_⟩, ?_⟩
  · obtain ⟨name, -, hbound⟩ := Option.bind_eq_some_iff.1 hc
    refine ⟨(h.bound name c hbound).1, hanswers c.source ?_⟩
    rw [View.pick, World.view, hc]
  · refine hanswers (.ofHost host) ?_
    rw [View.pick, World.view, hnone, hhost]
    rfl
  · have hpick : w.view.pick active s.host = none := by
      rw [View.pick, World.view, hnone, hhost]
      rfl
    exact hunpicked hpick
  · exact h.answers id active key

/-- Adds a version of a namespace that has one unit of code. -/
def addOrders (byte : UInt8) : Errand :=
  .call (.addWithOrder "orders" [⟨"app.Order", .code, [byte]⟩] .childFirst)

/-- The first version of it in a new registry. -/
def firstOrders : Context :=
  contextOf {} ⟨1⟩ "orders" ((extractAll {} [⟨"app.Order", .code, [1]⟩]).toOption.getD ∅)
    .childFirst

/-- The first version is there. -/
def withFirst : World Plugin.Directory :=
  ((runErrands {} [addOrders 1]).advance (World.initial ∅)).2

/-- Somebody has entered it, and it is replaced: it is waited for. -/
def replacing : World Plugin.Directory :=
  ((runErrands {} [addOrders 2]).advance (withFirst.perform (.enter firstOrders.id)).2).2

/-- The version that is active is waited for, and the resolver goes by the new one. -/
theorem resolver_answers_bound_replacing :
    ∃ ps c,
      Relation.ReflTransGen Program.Step
        ([[addOrders 1], [.lookup none firstOrders.source (.code "app.Order")], [addOrders 2]].map
          (runErrands {}), World.initial (∅ : Plugin.Directory)) (ps, replacing) ∧
      (replacing.life firstOrders.id).state = .shuttingDown ∧
      replacing.bound.get? "orders" = some c ∧ c.id = ⟨2⟩ ∧ (replacing.life c.id).state = .active ∧
      (resolver {} ⟨9⟩).AnswersAs replacing (some "orders") (.code "app.Order") c.source := by
  let reader : Program Unit := runErrands {} [.lookup none firstOrders.source (.code "app.Order")]
  have hfirst := Program.steps_advance [] [reader, runErrands {} [addOrders 2]]
    (runErrands {} [addOrders 1]) (World.initial (∅ : Plugin.Directory))
  have henter : Program.Step
      ([] ++ ((runErrands {} [addOrders 1]).advance (World.initial (∅ : Plugin.Directory))).1 ::
        [reader, runErrands {} [addOrders 2]], withFirst) _ :=
    .act [_] [runErrands {} [addOrders 2]] (.enter firstOrders.id) _ withFirst trivial
  have hrun := hfirst.trans (.head henter (Program.steps_advance [_, _] []
    (runErrands {} [addOrders 2]) (withFirst.perform (.enter firstOrders.id)).2))
  have hid : (replacing.bound.get? "orders").map Context.id = some ⟨2⟩ := by decide +kernel
  obtain ⟨c, hc, hcid⟩ := Option.map_eq_some_iff.1 hid
  obtain ⟨hbound, -⟩ := resolver_answers_bound {} (World.fresh_initial (∅ : Plugin.Directory))
    [[addOrders 1], [.lookup none firstOrders.source (.code "app.Order")], [addOrders 2]] hrun ⟨9⟩
    ⟨[⟨firstOrders, 1⟩]⟩ (.code "app.Order")
  obtain ⟨hactive, hanswers⟩ := hbound c hc
  exact ⟨_, c, hrun, by decide +kernel, hc, hcid, hactive, hanswers⟩

end Registry

end Tenancy
