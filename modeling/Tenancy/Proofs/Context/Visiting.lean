import Tenancy.Proofs.Context.View
import Tenancy.Proofs.Program.Discipline
import Tenancy.Registry.Bridge

/-!
# Proofs/Context/Visiting — look-ups leave what they enter

A look-up enters contexts and leaves them again, the last one first; for the rest it asks and
reports.  Providers are registered from inside the context that owns them.  So any discipline whose
notes tell which contexts a thread is inside is kept by both, and after them the note is what it was
before (`Source.restores_lookup`, `Bridge.restores_enlist`).
-/

namespace Tenancy

open Program (perform)

/-- **The discipline lets its threads visit contexts**: they ask and report, and enter a context to
leave it again. -/
structure Discipline.Welcomes {G : Type} (D : Discipline G) (enters : G → ContextId → G) :
    Prop where
  report : ∀ g e, D.allows g (.report e) ∧ ∀ x, D.after g (.report e) x = g
  refuse : ∀ g c, D.allows g (.refuse c) ∧ ∀ x, D.after g (.refuse c) x = g
  isHeld : ∀ g c, D.allows g (.isHeld c) ∧ ∀ x, D.after g (.isHeld c) x = g
  boundTo : ∀ g name, D.allows g (.boundTo name) ∧ ∀ x, D.after g (.boundTo name) x = g
  enter : ∀ g c, D.allows g (.enter c) ∧ D.after g (.enter c) true = enters g c ∧
    D.after g (.enter c) false = g
  leave : ∀ g c, D.allows (enters g c) (.leave c) ∧ ∀ x, D.after (enters g c) (.leave c) x = g

/-- And to register plugins of a context that they are inside. -/
structure Discipline.Hosts {G : Type} (D : Discipline G) (enters : G → ContextId → G) : Prop
    extends D.Welcomes enters where
  register : ∀ g r, D.allows (enters g r.owner) (.register r) ∧
    ∀ x, D.after (enters g r.owner) (.register r) x = enters g r.owner

section Visits

variable {G α : Type} {D : Discipline G} {enters : G → ContextId → G} {g : G} {key : ArtifactKey}

theorem Discipline.Welcomes.restores_report (hD : D.Welcomes enters) (e : Event) :
    (perform (.report e)).Restores D g :=
  .perform (hD.report g e).1 (hD.report g e).2

/-! ## Inside a context -/

/-- Whoever enters a context is inside it, or is refused. -/
theorem Holding.keeps_enter (hD : D.Welcomes enters) (h : Holding) :
    h.enter.Keeps D (fun g' r => r = .ok () ∧ g' = enters g h.id ∨
      r = .error (.contextShutdown h.id h.name) ∧ g' = g) g := by
  rw [enter_eq]
  obtain ⟨hallowed, hinside, houtside⟩ := hD.enter g h.id
  refine .perform_bind hallowed fun inside _ => ?_
  cases inside with
  | true => exact .done (.inl ⟨rfl, hinside⟩)
  | false =>
    rw [houtside]
    refine Program.Restores.keeps_bind (.perform (hD.refuse g h.id).1 (hD.refuse g h.id).2)
      fun first => ?_
    cases first with
    | true => exact (hD.restores_report _).keeps_bind fun _ => .done (.inr ⟨rfl, rfl⟩)
    | false => exact .done (.inr ⟨rfl, rfl⟩)

/-- **What is inside a context is left again**, and what holds of the answer of the body and of a
refusal holds of the answer. -/
theorem Holding.keeps_within (hD : D.Welcomes enters) {h : Holding}
    {body : Program (Except NamespaceError α)} {Q : Except NamespaceError α → Prop}
    (hb : body.Keeps D (fun g' r => g' = enters g h.id ∧ Q r) (enters g h.id))
    (hrefused : Q (.error (.contextShutdown h.id h.name))) :
    (h.within body).Keeps D (fun g' r => g' = g ∧ Q r) g := by
  refine (h.keeps_enter hD).bind fun g' entered hg' => ?_
  rcases hg' with ⟨rfl, rfl⟩ | ⟨rfl, rfl⟩
  · refine hb.bind fun g' r hr => ?_
    rw [hr.1]
    exact ⟨(hD.leave g h.id).1, fun x _ => ⟨(hD.leave g h.id).2 x, hr.2⟩⟩
  · exact .done ⟨rfl, hrefused⟩

theorem Holding.restores_within (hD : D.Welcomes enters) {h : Holding}
    {body : Program (Except NamespaceError α)} (hb : body.Restores D (enters g h.id)) :
    (h.within body).Restores D g :=
  (Holding.keeps_within hD (Q := fun _ => True) (hb.imp fun _ _ hg' => ⟨hg', trivial⟩) trivial).imp
    fun _ _ h => h.1

/-! ## Along a chain -/

namespace Chain

/-- What is behind a layer is asked, or missed because nobody holds it. -/
theorem keeps_behind (hD : D.Welcomes enters) {behind : List Layer}
    {ask : List Layer → Program (Except NamespaceError α)} {miss : Except NamespaceError α}
    {post : G → Except NamespaceError α → Prop} (ha : (ask behind).Keeps D post g)
    (hmiss : (∀ l ∈ behind.head?, D.expects g (.isHeld l.id) false) → post g miss) :
    (do if ← isHeld behind then ask behind else return miss : Program _).Keeps D post g := by
  cases behind with
  | nil => exact .done (hmiss nofun)
  | cons l behind =>
    refine .perform_bind (hD.isHeld g l.id).1 fun held hheld => ?_
    rw [(hD.isHeld g l.id).2]
    cases held with
    | true => exact ha
    | false => exact .done (hmiss fun l' hl' => by cases hl'; exact hheld)

theorem restores_behind (hD : D.Welcomes enters) {behind : List Layer}
    {ask : List Layer → Program (Except NamespaceError α)} {miss : Except NamespaceError α}
    (ha : (ask behind).Restores D g) :
    (do if ← isHeld behind then ask behind else return miss : Program _).Restores D g :=
  keeps_behind hD ha fun _ => rfl

theorem restores_ask (hD : D.Welcomes enters)
    {resolver : Option Holding → ArtifactKey → Program Found}
    (hr : ∀ g host, (resolver host key).Restores D g) (layers : List Layer) :
    (ask resolver key layers).Restores D g := by
  induction layers generalizing g with
  | nil => exact .done _
  | cons l behind ih =>
    cases l with
    | host own => exact .done _
    | resolver _ host => exact hr g host
    | context own order =>
      cases order with
      | childFirst =>
        refine Holding.restores_within hD ?_
        rcases own.find key with e | _ | a
        · exact .done _
        · exact restores_behind hD ih
        · exact .done _
      | parentFirst =>
        refine Holding.restores_within hD ((restores_behind hD ih).bind fun found => ?_)
        rcases found with e | _ | a <;> exact .done _

theorem restores_askAll (hD : D.Welcomes enters)
    {resolver : Option Holding → ArtifactKey → Program (Except NamespaceError (List Artifact))}
    (hr : ∀ g host, (resolver host key).Restores D g) (layers : List Layer) :
    (askAll resolver key layers).Restores D g := by
  induction layers generalizing g with
  | nil => exact .done _
  | cons l behind ih =>
    cases l with
    | host own => exact .done _
    | resolver _ host => exact hr g host
    | context own order =>
      refine Holding.restores_within hD ?_
      rcases own.find key with e | mine
      · exact .done _
      · refine (restores_behind hD ih).bind fun found => ?_
        rcases found with e | inherited <;> exact .done _

theorem restores_pick (hD : D.Welcomes enters) (active : Option String) (host : Option Holding) :
    (pick active host).Restores D g := by
  cases active with
  | none => exact .done _
  | some name =>
    refine Program.Restores.bind (.perform (hD.boundTo g name).1 (hD.boundTo g name).2)
      fun bound => ?_
    cases bound <;> exact .done _

theorem restores_askBound (hD : D.Welcomes enters) (source : Source) :
    (askBound key source).Restores D g :=
  restores_ask hD (fun _ _ => .done _) source.layers

theorem restores_askResolver (hD : D.Welcomes enters) (active : Option String)
    (host : Option Holding) : (askResolver active host key).Restores D g :=
  (restores_pick hD active host).bind fun picked => by
    cases picked with
    | none => exact .done _
    | some source => exact restores_askBound hD source

theorem restores_askAllResolver (hD : D.Welcomes enters) (active : Option String)
    (host : Option Holding) : (askAllResolver active host key).Restores D g :=
  (restores_pick hD active host).bind fun picked => by
    cases picked with
    | none => exact .done _
    | some source => exact restores_askAll hD (fun _ _ => .done _) source.layers

end Chain

/-! ## Look-ups -/

namespace Source

theorem restores_lookup (hD : D.Welcomes enters) (active : Option String) (source : Source)
    (key : ArtifactKey) : (source.lookup active key).Restores D g := by
  have hask : (Chain.ask (Chain.askResolver active) key source.layers).Restores D g :=
    Chain.restores_ask hD (fun _ host => Chain.restores_askResolver hD active host) source.layers
  unfold lookup
  split
  · refine (Chain.restores_pick hD active _).bind fun picked => ?_
    cases picked with
    | none => exact .done _
    | some p => exact (Chain.restores_askBound hD p).bind fun _ => .done _
  · exact hask.bind fun _ => .done _

theorem restores_lookupAll (hD : D.Welcomes enters) (active : Option String) (source : Source)
    (key : ArtifactKey) : (source.lookupAll active key).Restores D g :=
  Chain.restores_askAll hD (fun _ host => Chain.restores_askAllResolver hD active host)
    source.layers

end Source

/-! ## The bridge -/

namespace Bridge

variable {active : Option String} {c : Context}

theorem restores_discover (hD : D.Welcomes enters) (b : BridgeSettings) (service : String) :
    (discover b active c service).Restores D g := by
  refine (Source.restores_lookupAll hD active c.source _).bind fun found => ?_
  cases found with
  | ok manifests => exact .done _
  | error e => exact (hD.restores_report _).bind fun _ => .done _

/-- A provider is registered from inside the context that owns it. -/
theorem restores_enlistProvider (hD : D.Hosts enters) (service provider : String) :
    (enlistProvider active c service provider).Restores D (enters g c.id) := by
  have hreport := hD.restores_report (g := enters g c.id)
  refine (Source.restores_lookup hD.toWelcomes active c.source _).bind fun found => ?_
  cases found with
  | error e => exact (hreport _).bind fun _ => .done _
  | ok a =>
    simp only
    split
    · obtain ⟨hallowed, hafter⟩ := hD.register g ⟨service, provider, c.id, c.name⟩
      refine Program.Restores.bind (.perform hallowed hafter) fun answer => ?_
      cases answer with
      | ok handle => exact (hreport _).bind fun _ => .done _
      | error e => exact (hreport _).bind fun _ => .done _
    · exact (hreport _).bind fun _ => .done _

theorem restores_enlistProviders (hD : D.Hosts enters) (service : String)
    (providers : List String) :
    (enlistProviders active c service providers).Restores D (enters g c.id) := by
  induction providers with
  | nil => exact .done _
  | cons p ps ih =>
    exact (restores_enlistProvider hD service p).bind fun _ => ih.bind fun _ => .done _

theorem restores_enlistServices (hD : D.Hosts enters) (b : BridgeSettings)
    (services : List String) :
    (enlistServices b active c services).Restores D (enters g c.id) := by
  induction services with
  | nil => exact .done _
  | cons service services ih =>
    exact (restores_discover hD.toWelcomes b service).bind fun _ =>
      (restores_enlistProviders hD service _).bind fun _ => ih.bind fun _ => .done _

theorem restores_enlist (hD : D.Hosts enters) (b : BridgeSettings) :
    (enlist b active c).Restores D g := by
  refine (c.own.keeps_enter hD.toWelcomes).bind fun g' entered hg' => ?_
  rcases hg' with ⟨rfl, rfl⟩ | ⟨rfl, rfl⟩
  · refine (restores_enlistServices hD b b.services).keeps_bind fun n => ?_
    exact ⟨(hD.leave g c.id).1, fun x _ => (hD.leave g c.id).2 x⟩
  · exact (hD.restores_report _).bind fun _ => .done _

end Bridge

end Visits

end Tenancy
