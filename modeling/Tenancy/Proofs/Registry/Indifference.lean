import Tenancy.Plugin.Faulty
import Tenancy.Proofs.Registry.Ownership

/-!
# Proofs/Registry/Indifference — whatever the plugin registry answers

A registry runs beside a plugin registry that answers as it likes.  Of two such runs

    the actions of its own answer the same, and leave the worlds alike,
    what it asks of the plugins leaves the worlds alike, whatever is answered

where worlds are alike that differ in nothing but plugins and reports (`World.Alike`).  Answers of
the plugins decide only what is asked of them next and what is reported, so calls in turn come to
the same answers and the same names (`Registry.calls_ignore_plugins`).
-/

namespace Tenancy

open Program (perform)

/-! ## Worlds that are alike -/

/-- The worlds differ in nothing but plugins and reports. -/
structure World.Alike {σ σ' : Type} (w : World σ) (w' : World σ') : Prop where
  nextId : w'.nextId = w.nextId
  lives : w'.lives = w.lives
  bound : w'.bound = w.bound
  defaultDefined : w'.defaultDefined = w.defaultDefined
  gone : w'.gone = w.gone

/-- The action asks nothing of the plugin registry. -/
def Action.IsOwn : Action → Prop
  | .register _ | .deregister _ | .entries => False
  | _ => True

/-- The action is seen in the plugin registry or the reports only. -/
def Action.IsAside : Action → Prop
  | .register _ | .deregister _ | .entries | .report _ => True
  | _ => False

namespace World.Alike

variable {σ σ' : Type} {w : World σ} {w' : World σ'}

theorem refl (w : World σ) : w.Alike w :=
  ⟨rfl, rfl, rfl, rfl, rfl⟩

theorem symm (h : w.Alike w') : w'.Alike w :=
  ⟨h.nextId.symm, h.lives.symm, h.bound.symm, h.defaultDefined.symm, h.gone.symm⟩

theorem trans {τ : Type} {w₁ : World τ} (h : w.Alike w') (h' : w'.Alike w₁) : w.Alike w₁ where
  nextId := h'.nextId.trans h.nextId
  lives := h'.lives.trans h.lives
  bound := h'.bound.trans h.bound
  defaultDefined := h'.defaultDefined.trans h.defaultDefined
  gone := h'.gone.trans h.gone

theorem life_eq (h : w.Alike w') (c : ContextId) : w'.life c = w.life c := by
  rw [life, life, h.lives]

variable [Plugin.Backend σ']

/-- What is done aside leaves the world alike to any world that it was alike to. -/
theorem aside {a : Action} (ha : a.IsAside) (h : w.Alike w') : w.Alike (w'.perform a).2 := by
  cases a with
  | register r => exact ⟨h.nextId, h.lives, h.bound, h.defaultDefined, h.gone⟩
  | deregister handle => exact ⟨h.nextId, h.lives, h.bound, h.defaultDefined, h.gone⟩
  | entries => exact ⟨h.nextId, h.lives, h.bound, h.defaultDefined, h.gone⟩
  | report e => exact ⟨h.nextId, h.lives, h.bound, h.defaultDefined, h.gone⟩
  | _ => exact ha.elim

variable [Plugin.Backend σ]

/-- **An action that asks nothing of the plugins is the same in both worlds.** -/
theorem perform {a : Action} (ha : a.IsOwn) (h : w.Alike w') :
    (w'.perform a).1 = (w.perform a).1 ∧ (w.perform a).2.Alike (w'.perform a).2 := by
  obtain ⟨n, lives, bound, flag, plugins, gone, events⟩ := w
  obtain ⟨n', lives', bound', flag', plugins', gone', events'⟩ := w'
  obtain ⟨hn, hlives, hbound, hflag, hgone⟩ := h
  cases hn
  cases hlives
  cases hbound
  cases hflag
  cases hgone
  cases a with
  | register r => exact ha.elim
  | deregister h => exact ha.elim
  | entries => exact ha.elim
  | _ => exact ⟨rfl, rfl, rfl, rfl, rfl, rfl⟩

end World.Alike

/-! ## Programs that run beside each other -/

/-- **The programs go together**: in worlds that are alike they come to results that are related so,
and leave the worlds alike. -/
def Program.Couples {α β : Type} (R : α → β → Prop) (p : Program α) (q : Program β) : Prop :=
  ∀ (σ σ' : Type) [Plugin.Backend σ] [Plugin.Backend σ'] (w : World σ) (w' : World σ'),
    w.Alike w' → R (p.run w).1 (q.run w').1 ∧ (p.run w).2.Alike (q.run w').2

/-- Who keeps this to nothing but such actions need not note anything. -/
def Discipline.only (P : Action → Prop) : Discipline Unit where
  allows _ := P
  expects _ _ _ := True
  after _ _ _ := ()

theorem Program.Keeps.only {α : Type} {P : Action → Prop} {p : Program α} {post : Unit → α → Prop}
    (hp : p.Keeps (.only P) post ()) : p.Only P :=
  .of_keeps (fun _ _ _ => trivial) (fun _ _ ha => ha) hp

namespace Program.Couples

variable {α β γ δ : Type} {R : α → β → Prop} {S : γ → δ → Prop}

theorem done {x : α} {y : β} (h : R x y) : (Program.done x).Couples R (.done y) :=
  fun _ _ _ _ _ _ hw => ⟨h, hw⟩

theorem bind {p : Program α} {q : Program β} {f : α → Program γ} {g : β → Program δ}
    (hp : p.Couples R q) (hf : ∀ x y, R x y → (f x).Couples S (g y)) :
    (p >>= f).Couples S (q >>= g) := by
  intro σ σ' _ _ w w' hw
  obtain ⟨hr, hw₁⟩ := hp σ σ' w w' hw
  rw [run_bind, run_bind]
  exact hf _ _ hr σ σ' _ _ hw₁

/-- What follows a result that is the same. -/
theorem after {p : Program α} {f : α → Program γ} {g : α → Program δ} (hp : p.Couples Eq p)
    (hf : ∀ x, (f x).Couples S (g x)) : (p >>= f).Couples S (p >>= g) :=
  hp.bind fun x y hxy => by rw [hxy]; exact hf y

theorem act {a : Action} {f : a.Answer → Program γ} {g : a.Answer → Program δ} (ha : a.IsOwn)
    (hf : ∀ x, (f x).Couples S (g x)) : (Program.act a f).Couples S (.act a g) := by
  intro σ σ' _ _ w w' hw
  obtain ⟨hx, hw₁⟩ := hw.perform ha
  rw [run_act, run_act, hx]
  exact hf _ σ σ' _ _ hw₁

/-- What asks nothing of the plugins. -/
theorem own {p : Program α} (hp : p.Only Action.IsOwn) : p.Couples Eq p := by
  induction p with
  | done x => exact .done rfl
  | act a next ih => exact .act hp.1 fun x => ih x (hp.2 x)

/-- What is seen in the plugins and the reports only, goes with any other such program. -/
theorem aside {p : Program α} {q : Program β} (hp : p.Only Action.IsAside)
    (hq : q.Only Action.IsAside) : p.Couples (fun _ _ => True) q := by
  intro σ σ' _ _ w w' hw
  have hleft : w.Alike (p.run w).2 := hp.preserves .aside (.refl w)
  have hright : w'.Alike (q.run w').2 := hq.preserves .aside (.refl w')
  exact ⟨trivial, hleft.symm.trans (hw.trans hright)⟩

theorem anyhow {p : Program α} (hp : p.Only Action.IsAside) : p.Couples (fun _ _ => True) p :=
  .aside hp hp

/-- Reports go together, whatever they say. -/
theorem report (e e' : Event) : (perform (.report e)).Couples Eq (perform (.report e')) :=
  fun _ _ _ _ _ _ hw => ⟨rfl, hw.nextId, hw.lives, hw.bound, hw.defaultDefined, hw.gone⟩

end Program.Couples

/-! ## The bridge and the contexts -/

section Own

variable (active : Option String)

/-- One who only visits contexts asks nothing of the plugins. -/
theorem Action.welcomes_own :
    (Discipline.only Action.IsOwn).Welcomes fun _ _ => () where
  report _ _ := ⟨trivial, fun _ => rfl⟩
  refuse _ _ := ⟨trivial, fun _ => rfl⟩
  isHeld _ _ := ⟨trivial, fun _ => rfl⟩
  boundTo _ _ := ⟨trivial, fun _ => rfl⟩
  enter _ _ := ⟨trivial, rfl, rfl⟩
  leave _ _ := ⟨trivial, fun _ => rfl⟩

theorem Holding.only_enter (h : Holding) : h.enter.Only Action.IsOwn :=
  (h.keeps_enter (g := ()) Action.welcomes_own).only

theorem Holding.only_within {α : Type} (h : Holding) {body : Program (Except NamespaceError α)}
    (hb : body.Only Action.IsOwn) : (h.within body).Only Action.IsOwn := by
  refine h.only_enter.bind fun entered => ?_
  cases entered with
  | error e => exact trivial
  | ok _ => exact hb.bind fun _ => ⟨trivial, fun _ => trivial⟩

theorem Source.only_lookup (source : Source) (key : ArtifactKey) :
    (source.lookup active key).Only Action.IsOwn :=
  (source.restores_lookup Action.welcomes_own active key).only

theorem Source.only_lookupAll (source : Source) (key : ArtifactKey) :
    (source.lookupAll active key).Only Action.IsOwn :=
  (source.restores_lookupAll Action.welcomes_own active key).only

theorem only_collect {α β : Type} {P : Action → Prop} {f : α → Program (Except NamespaceError β)}
    (hf : ∀ x, (f x).Only P) (xs : List α) : (collect f xs).Only P := by
  induction xs with
  | nil => exact trivial
  | cons x xs ih =>
    refine (hf x).bind fun found => ?_
    cases found with
    | error e => exact trivial
    | ok y => exact ih.bind fun rest => by cases rest <;> exact trivial

theorem Chain.only_findSource (id : ContextId) (layers : List Layer) :
    (Chain.findSource id layers).Only Action.IsOwn := by
  induction layers with
  | nil => exact trivial
  | cons l behind ih =>
    refine ⟨trivial, fun held => ?_⟩
    cases held with
    | false => exact trivial
    | true =>
      simp only
      split
      · exact trivial
      · split
        · exact ih
        · exact trivial

theorem Context.only_resolveLinks (c : Context) (a : Artifact) :
    (c.resolveLinks active a).Only Action.IsOwn := by
  rw [resolveLinks]
  split
  · exact only_collect (fun link => c.source.only_lookup active (.code link)) a.links
  · refine (Chain.only_findSource a.origin.context c.behind).bind fun found => ?_
    cases found with
    | none => exact trivial
    | some source => exact only_collect (fun link => source.only_lookup active (.code link)) a.links

theorem Context.only_beginShutdown (c : Context) : c.beginShutdown.Only Action.IsOwn := by
  refine ⟨trivial, fun inFlight => ?_⟩
  cases inFlight with
  | none => exact trivial
  | some n => exact ⟨trivial, fun _ => ⟨trivial, fun _ => trivial⟩⟩

theorem Context.only_finishShutdown (c : Context) : c.finishShutdown.Only Action.IsOwn := by
  refine ⟨trivial, fun first => ?_⟩
  cases first with
  | true => exact ⟨trivial, fun _ => trivial⟩
  | false => exact trivial

end Own

namespace Bridge

variable (active : Option String) (c : Context)

theorem only_discover (b : BridgeSettings) (service : String) :
    (discover b active c service).Only Action.IsOwn := by
  refine (c.source.only_lookupAll active _).bind fun found => ?_
  cases found with
  | ok manifests => exact trivial
  | error e => exact ⟨trivial, fun _ => trivial⟩

/-- Whether a provider is registered is up to the plugins, what happens to the names is not. -/
theorem couples_enlistProvider (service provider : String) :
    (enlistProvider active c service provider).Couples (fun _ _ => True)
      (enlistProvider active c service provider) := by
  refine .after (.own (c.source.only_lookup active (.code provider))) fun found => .anyhow ?_
  cases found with
  | error e => exact ⟨trivial, fun _ => trivial⟩
  | ok a =>
    simp only
    split
    · refine ⟨trivial, fun answer => ?_⟩
      cases answer <;> exact ⟨trivial, fun _ => trivial⟩
    · exact ⟨trivial, fun _ => trivial⟩

theorem couples_enlistProviders (service : String) (providers : List String) :
    (enlistProviders active c service providers).Couples (fun _ _ => True)
      (enlistProviders active c service providers) := by
  induction providers with
  | nil => exact .done trivial
  | cons p ps ih =>
    exact (couples_enlistProvider active c service p).bind fun _ _ _ =>
      ih.bind fun _ _ _ => .done trivial

theorem couples_enlistServices (b : BridgeSettings) (services : List String) :
    (enlistServices b active c services).Couples (fun _ _ => True)
      (enlistServices b active c services) := by
  induction services with
  | nil => exact .done trivial
  | cons service services ih =>
    exact .after (.own (only_discover active c b service)) fun providers =>
      (couples_enlistProviders active c service providers).bind fun _ _ _ =>
        ih.bind fun _ _ _ => .done trivial

theorem couples_enlist (b : BridgeSettings) :
    (enlist b active c).Couples (fun _ _ => True) (enlist b active c) := by
  refine .after (.own c.own.only_enter) fun entered => ?_
  cases entered with
  | error e => exact .act trivial fun _ => .done trivial
  | ok _ =>
    exact (couples_enlistServices active c b b.services).bind fun _ _ _ =>
      .act trivial fun _ => .done trivial

theorem only_removeOwned (owner : ContextId) (name : String) (listed : List Plugin.Listing) :
    (removeOwned owner name listed).Only Action.IsAside := by
  induction listed with
  | nil => exact trivial
  | cons e es ih =>
    rw [removeOwned]
    split
    · refine ⟨trivial, fun answer => ?_⟩
      cases answer with
      | ok _ => exact ⟨trivial, fun _ => ih.bind fun _ => trivial⟩
      | error f => exact ⟨trivial, fun _ => ih⟩
    · exact ih

/-- Whatever is listed, and whatever becomes of it. -/
theorem only_cleanup (owner : ContextId) (name : String) :
    (cleanup owner name).Only Action.IsAside :=
  ⟨trivial, fun listed => only_removeOwned owner name listed⟩

end Bridge

/-! ## The registry -/

namespace Registry

variable (s : RegistrySettings)

/-- **A context is disposed of whatever the plugins answer.** -/
theorem couples_retire (c : Context) : (retire c).Couples Eq (retire c) := by
  refine .after (.own c.only_beginShutdown) fun _ => ?_
  -- the numbers of entries that were removed may differ, and are reported
  exact (Program.Couples.anyhow (Bridge.only_cleanup c.id c.name)).bind fun _ _ _ =>
    .after (.own c.only_finishShutdown) fun _ => .report _ _

theorem couples_settle (previous : Option Context) (c : Context) :
    (settle s previous c).Couples Eq (settle s previous c) := by
  have hdisplace : (displace previous).Couples Eq (displace previous) := by
    cases previous with
    | none => exact .done rfl
    | some p => exact couples_retire p
  exact .after hdisplace fun _ =>
    (Bridge.couples_enlist none c s.bridge).bind fun _ _ _ => .done rfl

theorem couples_install (name : String) (entries : ArtifactMap) (order : ResolutionOrder) :
    (install s name entries order).Couples Eq (install s name entries order) := by
  obtain ⟨e, he⟩ := install_eq s name entries order
  rw [he]
  exact .act trivial fun id => .act trivial fun previous => .act trivial fun _ =>
    couples_settle s previous (contextOf s id name entries order)

theorem only_extractReporting (ds : List Definition) :
    (extractReporting s ds).Only Action.IsOwn :=
  (only_reportAll (fun _ => trivial) _).bind fun _ => trivial

theorem couples_addWithOrder (name : String) (ds : List Definition) (order : ResolutionOrder) :
    (addWithOrder s name ds order).Couples Eq (addWithOrder s name ds order) := by
  rw [addWithOrder]
  split
  · exact .done rfl
  · refine .after (.own (only_extractReporting s ds)) fun extracted => ?_
    cases extracted with
    | error e => exact .done rfl
    | ok entries => exact .after (couples_install s name entries order) fun _ => .done rfl

theorem couples_reconcile (name : String) (entries : ArtifactMap) (order : ResolutionOrder) :
    (reconcile s name entries order).Couples Eq (reconcile s name entries order) := by
  refine .after (.own ⟨trivial, fun _ => trivial⟩) fun bound => ?_
  split
  · exact .act trivial fun _ => .done rfl
  · exact .after (couples_install s name entries order) fun _ => .done rfl

theorem couples_apply (t : Files.Tree) (c : NamespaceConfig) :
    (apply s t c).Couples Eq (apply s t c) := by
  rw [apply]
  split
  · exact .done rfl
  · split
    · exact .done rfl
    · refine .after (.own (only_extractReporting s _)) fun extracted => ?_
      cases extracted with
      | error e => exact .done rfl
      | ok entries => exact .after (couples_reconcile s c.name entries _) fun _ => .done rfl

theorem couples_remove (name : String) : (remove name).Couples Eq (remove name) := by
  obtain ⟨e, he⟩ := remove_eq name
  rw [he]
  refine .act trivial fun removed => ?_
  cases removed with
  | none => exact .done rfl
  | some c => exact .act trivial fun _ => .after (couples_retire c) fun _ => .done rfl

theorem couples_program (c : Call) : (c.program s).Couples Eq (c.program s) := by
  cases c with
  | add name ds => exact .after (couples_addWithOrder s name ds s.defaultOrder) fun _ => .done rfl
  | addWithOrder name ds order =>
    exact .after (couples_addWithOrder s name ds order) fun _ => .done rfl
  | apply t c => exact couples_apply s t c
  | remove name => exact .after (couples_remove name) fun _ => .done rfl

theorem couples_callAll (cs : List Call) : (callAll s cs).Couples Eq (callAll s cs) := by
  induction cs with
  | nil => exact .done rfl
  | cons c cs ih => exact .after (couples_program s c) fun _ => .after ih fun _ => .done rfl

end Registry

/-- Every look-up answers the same in both worlds. -/
structure World.AnswersLike {σ σ' : Type} [Plugin.Backend σ] [Plugin.Backend σ'] (w : World σ)
    (w' : World σ') : Prop where
  lookup : ∀ (source : Source) (active : Option String) (key : ArtifactKey),
    ((source.lookup active key).run w').1 = ((source.lookup active key).run w).1
  lookupAll : ∀ (source : Source) (active : Option String) (key : ArtifactKey),
    ((source.lookupAll active key).run w').1 = ((source.lookupAll active key).run w).1
  findLocal : ∀ (c : Context) (key : ArtifactKey),
    ((c.findLocal key).run w').1 = ((c.findLocal key).run w).1
  resolveLinks : ∀ (c : Context) (active : Option String) (a : Artifact),
    ((c.resolveLinks active a).run w').1 = ((c.resolveLinks active a).run w).1

namespace World.Alike

variable {σ σ' : Type} {w : World σ} {w' : World σ'}

theorem fresh (h : w.Alike w') (hw : w.Fresh) : w'.Fresh where
  bound := h.bound.trans hw.bound
  defaultDefined := h.defaultDefined.trans hw.defaultDefined
  unborn id hid := (h.life_eq id).trans (hw.unborn id (h.nextId ▸ hid))

variable [Plugin.Backend σ] [Plugin.Backend σ']

theorem run_eq {α : Type} {p : Program α} (hp : p.Only Action.IsOwn) (h : w.Alike w') :
    (p.run w').1 = (p.run w).1 :=
  (Program.Couples.own hp σ σ' w w' h).1.symm

theorem answersLike (h : w.Alike w') : w.AnswersLike w' where
  lookup source active key := h.run_eq (source.only_lookup active key)
  lookupAll source active key := h.run_eq (source.only_lookupAll active key)
  findLocal c _ := h.run_eq (c.own.only_within trivial)
  resolveLinks c active a := h.run_eq (c.only_resolveLinks active a)

end World.Alike

namespace Registry

variable {s : RegistrySettings} {σ σ' : Type} {w : World σ} {mine : ContextId → Prop}

/-- What a registry has taken is bound and in use, or disposed of. -/
theorem Coherent.fate (h : Coherent s mine [.idle] w) {id : ContextId} (hid : mine id)
    (hborn : id.number < w.nextId) :
    (∃ name c, w.bound.get? name = some c ∧ c.id = id ∧ (w.life id).state = .active) ∨
      (w.life id).state = .disposed := by
  by_cases hmem : id ∈ charges [.idle] w
  · have hvalue : id ∈ w.bound.values.map Context.id := hmem
    obtain ⟨c, hc, rfl⟩ := List.mem_map.1 hvalue
    obtain ⟨name, hname⟩ := (w.bound.mem_values_iff c).1 hc
    exact .inl ⟨name, c, hname, rfl, (h.bound name c hname).1⟩
  · exact .inr (h.retired id hid hborn hmem).1

variable [Plugin.Backend σ] [Plugin.Backend σ']

/-- **The plugin registry has no say in the names.**  Beside two plugin registries, whatever they
answer, the same calls run to their ends, answer the same and leave the same names bound to the same
contexts at every point on the way; the worlds after them differ in nothing but plugins and reports;
of the contexts that were taken, those bound no more are disposed of in both; and every look-up
answers the same. -/
theorem calls_ignore_plugins (s : RegistrySettings) {w' : World σ'} (hw : w.Fresh)
    (h : w.Alike w') (cs : List Call) :
    let r := (callAll s cs).run w
    let r' := (callAll s cs).run w'
    (callAll s cs).advance w = (.done r.1, r.2) ∧
    (callAll s cs).advance w' = (.done r'.1, r'.2) ∧
    r'.1 = r.1 ∧
    r.2.Alike r'.2 ∧
    (∀ earlier, earlier <+: cs →
      ((callAll s earlier).run w').2.bound = ((callAll s earlier).run w).2.bound) ∧
    (∀ id, w.Taken r.2 id →
      (∃ name c, r.2.bound.get? name = some c ∧ c.id = id ∧ (r.2.life id).state = .active) ∨
        (r.2.life id).state = .disposed ∧ (r'.2.life id).state = .disposed) ∧
    r.2.AnswersLike r'.2 := by
  intro r r'
  obtain ⟨hanswers, halike⟩ := couples_callAll s cs σ σ' w w' h
  obtain ⟨hadvance, hr⟩ := (coherent_fresh s hw 1).restored (restores_callAll cs)
  obtain ⟨hadvance', -⟩ := (coherent_fresh s (h.fresh hw) 1).restored (restores_callAll cs)
  refine ⟨hadvance, hadvance', hanswers.symm, halike, fun earlier _ => ?_, fun id hid => ?_,
    halike.answersLike⟩
  · exact (couples_callAll s earlier σ σ' w w' h).2.bound
  · refine (hr.fate hid.1 hid.2).imp_right fun hdisposed => ⟨hdisposed, ?_⟩
    rw [halike.life_eq]
    exact hdisposed

/-- A context with a driver is replaced and removed, beside a directory that takes the driver and
beside a registry that refuses it. -/
theorem calls_ignore_plugins_refusing :
    let manifest : ArtifactKey := .data "META-INF/services/sql.Driver"
    let entry : Entry := .compress manifest (utf8 "app.Driver")
    let s : RegistrySettings :=
      { host := some ⟨⟨1⟩, "host", Table.insert ∅ manifest entry, .raw⟩ }
    let w : World Plugin.Directory := { World.initial ∅ with nextId := 2 }
    let w' : World Plugin.ReadOnly := { World.initial {} with nextId := 2 }
    let add : Call := .addWithOrder "orders" [⟨"app.Driver", .code, [7]⟩] .childFirst
    let calls := [add, add, .remove "orders", .remove "orders"]
    (((callAll s [add]).run w).2.plugins.entries.map (·.handle)) = [1] ∧
      ((callAll s calls).run w').1 = ((callAll s calls).run w).1 ∧
      (((callAll s calls).run w').2.life ⟨2⟩).state = .disposed := by
  intro manifest entry s w w' add calls
  have hw : w.Fresh := ⟨rfl, rfl, fun _ _ => rfl⟩
  have h : w.Alike w' := ⟨rfl, rfl, rfl, rfl, rfl⟩
  obtain ⟨-, -, hanswers, halike, -, -, -⟩ := calls_ignore_plugins s hw h calls
  refine ⟨by decide +kernel, hanswers, ?_⟩
  rw [halike.life_eq]
  decide +kernel

end Registry

end Tenancy
