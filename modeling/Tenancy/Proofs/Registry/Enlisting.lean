import Tenancy.Proofs.Plugin.Directory
import Tenancy.Proofs.Registry.Duty
import Tenancy.Proofs.Repeats

/-!
# Proofs/Registry/Enlisting — the plugins that a context should have

A context should have the providers that its manifests list and that it defines itself
(`Bridge.wanted`); its look-ups tell which these are.  Where it is in use, the bridge registers
exactly them, one after another (`Bridge.calm_enlist`), and a context that had no plugins before has
them afterwards in their order (`Bridge.registrations_enlist`).  When a context is retired what it
owns is withdrawn (`Registry.plugins_retire`).
-/

namespace Tenancy

open Plugin (Directory Registration)
open Plugin.Directory (offer)
open Program (perform)

/-! ## Programs that register -/

theorem World.Calm.withPlugins {σ : Type} {w w' : World σ} (h : w.Calm w') (d : σ) :
    { w with plugins := d }.Calm { w' with plugins := d } :=
  ⟨h.nextId, h.bound, h.defaultDefined, rfl, h.gone, h.state, h.inFlight⟩

/-- In every world with this view the program registers these plugins, and leaves nothing else but
reports. -/
def Program.Enlists {α : Type} (v : View) (p : Program α) (rs : List Registration) : Prop :=
  ∀ w : World Directory, w.view = v →
    { w with plugins := w.plugins.registerAll rs }.Calm (p.run w).2

namespace Program

variable {α β : Type} {v : View} {rs rs' : List Registration}

theorem Reads.enlists {p : Program α} {x : α} (hp : p.Reads v x) : p.Enlists v [] :=
  fun w hw => (hp Directory w hw).2

theorem Reads.enlists_bind {p : Program α} {x : α} {f : α → Program β} (hp : p.Reads v x)
    (hf : (f x).Enlists v rs) : (p >>= f).Enlists v rs := by
  intro w hw
  obtain ⟨hx, hc⟩ := hp Directory w hw
  have hrest := hf (p.run w).2 (hc.view_eq.trans hw)
  rw [run_bind, hx]
  rw [hc.plugins] at hrest
  exact (hc.withPlugins _).trans hrest

namespace Enlists

theorem register (r : Registration) : (perform (.register r)).Enlists v [r] :=
  fun _ _ => .refl _

theorem bind {p : Program α} {f : α → Program β} (hp : p.Enlists v rs)
    (hf : ∀ x, (f x).Enlists v rs') : (p >>= f).Enlists v (rs ++ rs') := by
  intro w hw
  have hc := hp w hw
  have hrest := hf (p.run w).1 (p.run w).2 (hc.view_eq.trans hw)
  rw [hc.plugins] at hrest
  rw [run_bind, Directory.registerAll_append]
  exact (hc.withPlugins _).trans hrest

end Enlists

end Program

namespace Bridge

/-! ## What a context should have -/

section Wanted

variable {σ : Type} [Plugin.Backend σ] (b : BridgeSettings) (active : Option String) (c : Context)
  (w : World σ)

/-- The providers that the manifests of a context list for a service; none if they cannot be had. -/
def listed (service : String) : List String :=
  match ((c.findResources active (Naming.manifestPath b.manifestStart service)).run w).1 with
  | .ok manifests => providersOf manifests
  | .error _ => []

/-- A provider is found, and the context itself defines it. -/
def defines (provider : String) : Bool :=
  match ((c.resolve active provider).run w).1 with
  | .ok a => a.origin.context = c.id
  | .error _ => false

/-- What a context lists for a service and defines. -/
def provided (service : String) : List (String × String) :=
  ((listed b active c w service).filter (defines active c w)).map fun p => (service, p)

/-- **The services and providers that a context should have registered.** -/
def wanted : List (String × String) :=
  b.services.eraseDups.flatMap (provided b active c w)

variable {b active c w}

/-- What a context provides is the same wherever its look-ups answer the same. -/
theorem provided_congr {w' : World σ} (h : w.view.Agree w'.view c.source)
    (active active' : Option String) : provided b active c w = provided b active' c w' := by
  have hlisted : ∀ service, listed b active c w service = listed b active' c w' service :=
    fun service => by
      unfold listed Context.findResources
      rw [h.lookupAll_eq active active']
  have hdefines : defines active c w = defines active' c w' := funext fun provider => by
    unfold defines Context.resolve
    rw [h.lookup_eq active active']
  exact funext fun service => by rw [provided, provided, hlisted, hdefines]

theorem wanted_congr {w' : World σ} (h : w.view.Agree w'.view c.source)
    (active active' : Option String) : wanted b active c w = wanted b active' c w' := by
  rw [wanted, wanted, provided_congr h active active']

theorem nodup_provided (service : String) : (provided b active c w service).Nodup := by
  have hlisted : (listed b active c w service).Nodup := by
    unfold listed
    split
    · exact nodup_eraseDups _
    · exact List.nodup_nil
  exact (hlisted.filter _).map fun p q hpq => congrArg Prod.snd hpq

/-- A service that is configured more than once counts once. -/
theorem eraseDups_provided :
    (b.services.flatMap (provided b active c w)).eraseDups = wanted b active c w := by
  refine eraseDups_flatMap Prod.fst (fun service p hp => ?_) nodup_provided b.services
  obtain ⟨provider, -, rfl⟩ := List.mem_map.1 hp
  rfl

end Wanted

/-! ## Registering -/

variable {b : BridgeSettings} {active : Option String} {c : Context} {w : World Directory}

theorem reads_discover (service : String) :
    (discover b active c service).Reads w.view (listed b active c w service) := by
  have hfound := (Source.reads_lookupAll (v := w.view) active c.source
    (.data (Naming.manifestPath b.manifestStart service))).of_run
  refine hfound.bind ?_
  unfold listed Context.findResources
  cases ((c.source.lookupAll active (.data (Naming.manifestPath b.manifestStart service))).run w).1
    with
  | ok manifests => exact .done _
  | error e => exact (Program.Reads.report _).bind (.done _)

theorem enlists_provider (service provider : String) :
    (enlistProvider active c service provider).Enlists w.view
      (if defines active c w provider then [offer c.id c.name (service, provider)] else []) := by
  have hfound := (Source.reads_lookup (v := w.view) active (s := c.source) (.code provider)
    nofun).of_run
  refine hfound.enlists_bind ?_
  unfold defines Context.resolve
  cases ((c.source.lookup active (.code provider)).run w).1 with
  | error e => exact ((Program.Reads.report _).bind (.done _)).enlists
  | ok a =>
    simp only [decide_eq_true_eq]
    split
    · rw [← List.append_nil [offer c.id c.name (service, provider)]]
      refine (Program.Enlists.register _).bind fun answer => ?_
      cases answer with
      | ok handle => exact ((Program.Reads.report _).bind (.done _)).enlists
      | error e => exact ((Program.Reads.report _).bind (.done _)).enlists
    · exact ((Program.Reads.report _).bind (.done _)).enlists

theorem enlists_providers (service : String) (providers : List String) :
    (enlistProviders active c service providers).Enlists w.view
      ((providers.filter (defines active c w)).map fun p => offer c.id c.name (service, p)) := by
  induction providers with
  | nil => exact (Program.Reads.done _).enlists
  | cons p ps ih =>
    have hrest : (enlistProviders active c service (p :: ps)).Enlists w.view (_ ++ (_ ++ [])) :=
      (enlists_provider service p).bind fun done =>
        ih.bind fun rest => (Program.Reads.done (done.toNat + rest)).enlists
    rw [List.append_nil] at hrest
    rw [List.filter_cons]
    split
    · rename_i hp; rw [if_pos hp] at hrest; exact hrest
    · rename_i hp; rw [if_neg hp] at hrest; exact hrest

theorem enlists_services (services : List String) :
    (enlistServices b active c services).Enlists w.view
      ((services.flatMap (provided b active c w)).map (offer c.id c.name)) := by
  induction services with
  | nil => exact (Program.Reads.done _).enlists
  | cons service services ih =>
    have hrest : (enlistServices b active c (service :: services)).Enlists w.view
        (_ ++ (_ ++ [])) :=
      (reads_discover service).enlists_bind
        ((enlists_providers service (listed b active c w service)).bind fun here =>
          ih.bind fun rest => (Program.Reads.done (here + rest)).enlists)
    rw [List.append_nil] at hrest
    rw [List.flatMap_cons, List.map_append, provided, List.map_map]
    exact hrest

/-- What the bridge registers for a context. -/
def offers (b : BridgeSettings) (active : Option String) (c : Context) (w : World Directory) :
    List Registration :=
  (b.services.flatMap (provided b active c w)).map (offer c.id c.name)

theorem offers_congr {w' : World Directory} (h : w.view.Agree w'.view c.source) :
    offers b active c w = offers b active c w' := by
  rw [offers, offers, provided_congr h active active]

/-- **For a context in use the bridge registers its offers**, and nothing else happens. -/
theorem calm_enlist (b : BridgeSettings) (active : Option String) {c : Context}
    (ho : (w.life c.id).state = .active) :
    { w with plugins := w.plugins.registerAll (offers b active c w) }.Calm
      ((enlist b active c).run w).2 := by
  have hservices : ({ w with
      plugins := w.plugins.registerAll (offers b active c w) }.entered c.id).Calm
      ((enlistServices b active c b.services).run (w.entered c.id)).2 :=
    enlists_services b.services (w.entered c.id) (w.view_entered c.id)
  rw [enlist, Program.run_bind, c.own.run_enter ho]
  simp only [Program.run_bind]
  exact hservices.leave

/-- A context that had none has the plugins that it should have, in their order. -/
theorem registrations_offers {d : Directory} (hd : d.ownedBy c.id = []) :
    (d.registerAll (offers b active c w)).registrations c.id =
      (wanted b active c w).map (offer c.id c.name) := by
  have hnone : d.registrations c.id = ([] : List (String × String)).map (offer c.id c.name) := by
    rw [Directory.registrations, hd]
    rfl
  rw [offers, Directory.registrations_registerAll hnone, List.nil_append, List.removeAll_nil,
    eraseDups_provided]

theorem ownedBy_offers_ne {d : Directory} {o : ContextId} (ho : o ≠ c.id) :
    (d.registerAll (offers b active c w)).ownedBy o = d.ownedBy o := by
  refine d.ownedBy_registerAll_ne fun r hr => ?_
  obtain ⟨p, -, rfl⟩ := List.mem_map.1 hr
  exact Ne.symm ho

/-! ## Removing -/

theorem plugins_removeOwned (owner : ContextId) (name : String) (es : List Plugin.Listing)
    (w : World Directory) :
    ((removeOwned owner name es).run w).2.plugins =
      w.plugins.deregisterAll (Duty.handlesOf owner es) := by
  induction es generalizing w with
  | nil => rfl
  | cons e es ih =>
    rw [removeOwned, Duty.handlesOf, List.filter_cons]
    by_cases he : e.registration.owner = owner
    · rw [if_pos he, if_pos (by simpa using he), Program.run_bind]
      cases ((perform (.deregister e.handle)).run w).1 with
      | ok _ => simp only [Program.run_bind]; exact ih _
      | error f => simp only [Program.run_bind]; exact ih _
    · rw [if_neg he, if_neg (by simpa using he)]
      exact ih w

/-- **The clean-up withdraws the owner.** -/
theorem plugins_cleanup (owner : ContextId) (name : String) (w : World Directory) :
    ((cleanup owner name).run w).2.plugins = w.plugins.withdraw owner :=
  plugins_removeOwned owner name w.plugins.entries w

end Bridge

/-- Retiring a context withdraws it. -/
theorem Registry.plugins_retire (c : Context) (w : World Directory) :
    ((retire c).run w).2.plugins = w.plugins.withdraw c.id := by
  have hbegin : (c.beginShutdown.run w).2.plugins = w.plugins := by
    rw [Context.beginShutdown, Program.run_bind]
    cases ((perform (.beginClose c.id)).run w).1 <;> rfl
  have hfinish : ∀ w' : World Directory, (c.finishShutdown.run w').2.plugins = w'.plugins :=
    fun w' => by
      rw [Context.finishShutdown, Program.run_bind]
      cases ((perform (.finishClose c.id)).run w').1 <;> rfl
  have hreport : ∀ (e : Event) (w' : World Directory),
      ((perform (.report e)).run w').2.plugins = w'.plugins := fun _ _ => rfl
  simp only [retire, Program.run_bind]
  rw [hreport, hfinish, Bridge.plugins_cleanup, hbegin]

end Tenancy
