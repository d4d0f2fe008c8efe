import Tenancy.Proofs.Bundle.Composition
import Tenancy.Proofs.Config.FailedStart
import Tenancy.Proofs.Registry.Reconciling

/-!
# Proofs/Config/Startup — a valid configuration starts as it is written

    names bound  =  keys listed,        bound under a key  =  what is listed there asks for

What `Config.validate` looks at before anything is done covers every check of an argument that is
made later: names and ids that are blank, resources that are left out, sources that are none or
several.  So a start from a valid configuration fails, if it does, with what is in its files and
payloads (`Config.start_of_valid`).  Since no name differs from its key, no two namespaces become
one.
-/

namespace Tenancy

/-! ## Valid resources -/

/-- The failures that do not lie in an argument. -/
def NamespaceError.IsOfContent (e : NamespaceError) : Prop :=
  ∀ fault, e ≠ .invalidArgument fault

namespace Walk

variable {t : Files.Tree}

theorem readAll_error {fs : List (String × String)} {e : NamespaceError}
    (h : readAll t fs = .error e) : ∃ fault, e = .io fault := by
  induction fs with
  | nil => cases h
  | cons f fs ih =>
    rw [readAll] at h
    split at h
    · cases h
      exact ⟨_, rfl⟩
    · cases hrest : readAll t fs with
      | ok _ => rw [hrest] at h; cases h
      | error e' =>
        rw [hrest] at h
        cases h
        exact ih hrest

/-- Packing fails with the file system only. -/
theorem pack_error {s : WalkSettings} {root id : String} {e : NamespaceError}
    (h : pack t s root id = .error e) : ∃ fault, e = .io fault := by
  cases hfound : found t s root with
  | error fault =>
    simp only [pack, files, hfound, bind, Except.bind] at h
    cases h
    exact ⟨fault, rfl⟩
  | ok fs =>
    simp only [pack, files, hfound, bind, Except.bind] at h
    split at h
    · rename_i hread
      cases h
      exact readAll_error hread
    · cases h

end Walk

/-- A valid resource may be unreadable, but it is no bad argument. -/
theorem ResourceConfig.toDefinition_error {t : Files.Tree} {r : ResourceConfig}
    {e : NamespaceError} (hvalid : r.validate = .ok ()) (h : r.toDefinition t = .error e) :
    e.IsOfContent := by
  simp only [toDefinition, hvalid] at h
  split at h
  · obtain ⟨fault, rfl⟩ := Walk.pack_error h
    exact nofun
  · split at h
    · cases h
    · cases h
      exact nofun
  · simp only [inlinePayload] at h
    split at h
    · cases h
    · cases h
      exact nofun

/-- What is read in turn fails as one of its parts does. -/
theorem exists_of_mapM_error {α β ε : Type} {f : α → Except ε β} {xs : List α} {e : ε}
    (h : xs.mapM f = .error e) : ∃ x ∈ xs, f x = .error e := by
  induction xs with
  | nil => cases h
  | cons x xs ih =>
    rw [List.mapM_cons] at h
    cases hx : f x with
    | error e' =>
      rw [hx] at h
      cases h
      exact ⟨x, List.mem_cons_self, hx⟩
    | ok y =>
      cases hxs : xs.mapM f with
      | ok ys => rw [hx, hxs] at h; cases h
      | error e' =>
        rw [hx, hxs] at h
        cases h
        obtain ⟨x', hx', hfailed⟩ := ih hxs
        exact ⟨x', List.mem_cons_of_mem _ hx', hfailed⟩

namespace NamespaceConfig

variable {n : NamespaceConfig}

theorem validate_of_validateResources {seen : List String} {rs : List ResourceConfig}
    (h : validateResources seen rs = .ok ()) : ∀ r ∈ rs, r.validate = .ok () := by
  induction rs generalizing seen with
  | nil => exact nofun
  | cons r rs ih =>
    rw [validateResources] at h
    split at h
    · cases h
    · rename_i hr
      split at h
      · cases h
      · exact List.forall_mem_cons.2 ⟨hr, ih h⟩

/-- **A valid namespace has a good name, and resources that are valid.** -/
theorem validate_ok (h : n.validate = .ok ()) :
    Registry.checkName n.name = .ok () ∧
      ∃ rs, n.resources = some rs ∧ ∀ r ∈ rs, r.validate = .ok () := by
  rw [validate] at h
  split at h
  · cases h
  · rename_i hname
    split at h
    · cases h
    · rename_i rs hrs
      exact ⟨if_neg hname, rs, hrs, validate_of_validateResources h⟩

theorem toDefinitions_error {t : Files.Tree} {e : NamespaceError} (hvalid : n.validate = .ok ())
    (h : n.toDefinitions t = .error e) : e.IsOfContent := by
  obtain ⟨-, rs, hrs, hvalid⟩ := validate_ok hvalid
  rw [toDefinitions, hrs] at h
  obtain ⟨r, hr, hfailed⟩ := exists_of_mapM_error h
  exact r.toDefinition_error (hvalid r hr) hfailed

/-- What a namespace has does not depend on what it is called. -/
theorem toDefinitions_rename {t : Files.Tree} {name : String} {ds : List Definition} :
    ({ n with name := name } : NamespaceConfig).toDefinitions t = .ok ds ↔
      n.toDefinitions t = .ok ds := by
  unfold toDefinitions
  cases n.resources with
  | none => exact ⟨nofun, nofun⟩
  | some rs => exact .rfl

end NamespaceConfig

namespace Registry

variable {s : RegistrySettings} {t : Files.Tree} {n : NamespaceConfig}

/-- Applying a valid namespace fails with its content only. -/
theorem prepared_error {e : NamespaceError} (hvalid : n.validate = .ok ())
    (h : prepared s n.name (n.toDefinitions t) = .error e) : e.IsOfContent := by
  obtain ⟨hname, -⟩ := NamespaceConfig.validate_ok hvalid
  cases hds : n.toDefinitions t with
  | error e' =>
    simp only [prepared, hname, hds] at h
    cases h
    exact n.toDefinitions_error hvalid hds
  | ok ds =>
    simp only [prepared, hname, hds] at h
    rcases Extraction.extractAll_eq_error h with hrefusal | ⟨key, rfl, -⟩
    · cases hrefusal <;> rintro _ ⟨⟩
    · rintro _ ⟨⟩

/-- What is prepared is what is asked for. -/
theorem asks_of_prepared {entries : ArtifactMap}
    (h : prepared s n.name (n.toDefinitions t) = .ok entries) :
    Asks s t n entries (n.order.getD s.defaultOrder) := by
  obtain ⟨-, ds, hds, hentries⟩ := prepared_eq_ok_iff.1 h
  exact ⟨rfl, ds, hds, hentries⟩

/-- What a good name asks for is prepared. -/
theorem prepared_of_asks {entries : ArtifactMap} {order : ResolutionOrder}
    (hname : checkName n.name = .ok ()) (h : Asks s t n entries order) :
    prepared s n.name (n.toDefinitions t) = .ok entries := by
  obtain ⟨-, ds, hds, hentries⟩ := h
  exact prepared_eq_ok_iff.2 ⟨hname, ds, hds, hentries⟩

theorem Asks.rename {name : String} {entries : ArtifactMap} {order : ResolutionOrder} :
    Asks s t { n with name := name } entries order ↔ Asks s t n entries order := by
  simp only [Asks, NamespaceConfig.toDefinitions_rename]

end Registry

namespace Config

open Registry (Asks prepared Coherent)

/-! ## Valid configurations -/

theorem issueOf_eq_nil {ε : Type} {wrap : ε → ConfigIssue} {x : Except ε Unit} :
    issueOf wrap x = [] ↔ x = .ok () := by
  cases x with
  | error e => exact ⟨nofun, nofun⟩
  | ok _ => exact ⟨fun _ => rfl, fun _ => rfl⟩

/-- **The namespaces of a valid configuration go by their keys**, and each of them is valid. -/
theorem resolved_of_valid {c : Config} (h : c.ensureValid = .ok ()) :
    c.namespaces.resolved = c.namespaces.namespaces.pairs.map (fun n => { n.2 with name := n.1 }) ∧
      ∀ n ∈ c.namespaces.resolved, n.validate = .ok () := by
  have hnone : c.validate = [] := by
    rw [ensureValid] at h
    split at h
    · rename_i hempty
      exact List.isEmpty_iff.1 hempty
    · cases h
  simp only [validate, List.append_eq_nil_iff] at hnone
  obtain ⟨⟨⟨⟨hkeys, hnamespaces⟩, -⟩, -⟩, -⟩ := hnone
  refine ⟨List.map_congr_left fun n hn => ?_, fun n hn => ?_⟩
  · have hkey := List.filter_eq_nil_iff.1 (List.map_eq_nil_iff.1 hkeys) n hn
    split
    · rfl
    · rename_i hname
      have hsame : n.2.name = n.1 := by simpa [hname] using hkey
      rw [← hsame]
  · exact issueOf_eq_nil.1 (List.flatMap_eq_nil_iff.1 hnamespaces n hn)

/-! ## Applying namespaces in turn -/

variable {σ : Type} [Plugin.Backend σ] {w w' : World σ} {s : RegistrySettings} {t : Files.Tree}

/-- A namespace that is not held yet is put in its place. -/
theorem apply_ok {n : NamespaceConfig} {b : Bool} (hnew : w.contents.get? n.name = none)
    (hrun : (Registry.apply s t n).run w = (.ok b, w')) :
    ∃ held, w'.contents = w.contents.insert n.name held ∧ Asks s t n held.1 held.2 := by
  obtain ⟨hmeaning, -⟩ := Registry.call_means s (.apply t n) w
  rw [Registry.Call.program, hrun] at hmeaning
  cases hprepared : prepared s n.name (n.toDefinitions t) with
  | error e =>
    simp only [Registry.Call.meaning, hprepared, Except.toOption, Option.any_none,
      Bool.false_eq_true, if_false, Registry.put] at hmeaning
    cases hmeaning
  | ok entries =>
    simp only [Registry.Call.meaning, hprepared, Except.toOption, Option.any_some, Registry.isHeld,
      hnew, Option.any_none, Bool.false_eq_true, if_false, Registry.put] at hmeaning
    exact ⟨(entries, n.order.getD s.defaultOrder), congrArg Prod.snd hmeaning,
      Registry.asks_of_prepared hprepared⟩

/-- **Namespaces of different names that are not held yet end up side by side.** -/
theorem applyAll_ok {ns : List NamespaceConfig} (hnames : (ns.map (·.name)).Nodup)
    (hnew : ∀ n ∈ ns, w.contents.get? n.name = none)
    (hrun : (applyAll s t ns).run w = (.ok (), w')) :
    (∀ name ∉ ns.map (·.name), w'.contents.get? name = w.contents.get? name) ∧
      ∀ n ∈ ns, ∃ held, w'.contents.get? n.name = some held ∧ Asks s t n held.1 held.2 := by
  -- the first is put in its place, and the others leave that place alone
  induction ns generalizing w with
  | nil =>
    cases hrun
    exact ⟨fun _ _ => rfl, List.forall_mem_nil _⟩
  | cons n ns ih =>
    rw [List.map_cons, List.nodup_cons] at hnames
    obtain ⟨hn, hnames⟩ := hnames
    obtain ⟨hnewHead, hnew⟩ := List.forall_mem_cons.1 hnew
    rw [applyAll, Program.run_bind] at hrun
    generalize hfirst : (Registry.apply s t n).run w = first at hrun
    obtain ⟨x, w₁⟩ := first
    cases x with
    | error e => cases hrun
    | ok b =>
      obtain ⟨held, hput, hasks⟩ := apply_ok hnewHead hfirst
      have hnew₁ : ∀ m ∈ ns, w₁.contents.get? m.name = none := fun m hm => by
        have hne : m.name ≠ n.name := fun he => hn (List.mem_map.2 ⟨m, hm, he⟩)
        rw [hput, Table.get?_insert_ne _ _ hne, hnew m hm]
      obtain ⟨hothers, hrest⟩ := ih hnames hnew₁ hrun
      refine ⟨fun name hname => ?_, List.forall_mem_cons.2 ⟨⟨held, ?_, hasks⟩, hrest⟩⟩
      · rw [List.map_cons, List.mem_cons, not_or] at hname
        rw [hothers name hname.2, hput, Table.get?_insert_ne _ _ hname.1]
      · rw [hothers n.name hn, hput, Table.get?_insert_self]

theorem restores_applyAll (ns : List NamespaceConfig) :
    (applyAll s t ns).Restores (Registry.discipline s) .idle := by
  induction ns with
  | nil => exact .done _
  | cons n ns ih =>
    refine (Registry.restores_apply t n).bind fun applied => ?_
    cases applied with
    | ok _ => exact ih
    | error e => exact .done _

/-! ## Starting -/

variable {c : Config} {host : Option Holding}

/-- A service from a valid configuration is a registry to which the namespaces were applied. -/
theorem run_startService (hvalid : c.ensureValid = .ok ()) (henabled : c.namespaces.enabled = true)
    {applied : Except NamespaceError Unit × World σ}
    (happlied : (applyAll (c.registrySettings host) t c.namespaces.resolved).run w = applied) :
    ((c.startService t host).run w).1 =
        applied.1.map (fun _ => .registry (c.registrySettings host)) ∧
      ∃ es, ((c.startService t host).run w).2 = { applied.2 with events := es } := by
  simp only [startService, hvalid, henabled, if_true, startRegistry, Program.run_bind, happlied]
  obtain ⟨x, w₁⟩ := applied
  cases x with
  | error e => exact ⟨rfl, w₁.events, rfl⟩
  | ok _ => exact ⟨rfl, _, rfl⟩

/-- **A service has what is listed**: under every key a context in use with what the namespace there
asks for, and nothing else. -/
structure Serves (s : RegistrySettings) (t : Files.Tree) (listed : Table String NamespaceConfig)
    (service : Service) (w : World σ) : Prop where
  has : ∀ name, service.has w name = listed.contains name
  default : service.isDefaultDefined w = listed.contains defaultName
  context : ∀ name n, listed.get? name = some n →
    ∃ held, service.contextFor w name = some held ∧ (w.life held.id).state = .active ∧
      Asks s t n held.own.entries held.order

theorem names_resolved (hvalid : c.ensureValid = .ok ()) :
    c.namespaces.resolved.map (·.name) = c.namespaces.namespaces.keys := by
  rw [(resolved_of_valid hvalid).1, List.map_map]
  rfl

/-- Once all that is listed is applied, its keys are bound to what is asked for there, and no other
name is bound. -/
theorem bound_of_applied (hw : w.Fresh) (hvalid : c.ensureValid = .ok ())
    (happlied : (applyAll (c.registrySettings host) t c.namespaces.resolved).run w = (.ok (), w')) :
    (∀ name, c.namespaces.namespaces.get? name = none → w'.bound.contains name = false) ∧
      ∀ name n, c.namespaces.namespaces.get? name = some n →
        ∃ held, w'.bound.get? name = some held ∧
          Asks (c.registrySettings host) t n held.own.entries held.order := by
  have hnone : ∀ name, w.contents.get? name = none := fun name => by
    rw [World.contents, hw.bound]
    rfl
  have hnames := names_resolved hvalid
  obtain ⟨hothers, hlisted⟩ := applyAll_ok (hnames ▸ c.namespaces.namespaces.nodup_keys)
    (fun n _ => hnone n.name) happlied
  constructor
  · intro name hget
    have hkey : name ∉ c.namespaces.resolved.map (·.name) := by
      rw [hnames, Table.mem_keys_iff, hget]
      rintro ⟨_, ⟨⟩⟩
    have hcontents : w'.contents.get? name = none := (hothers name hkey).trans (hnone name)
    rw [World.contents, Table.get?_map, Option.map_eq_none_iff] at hcontents
    rw [Table.contains, hcontents]
    rfl
  · intro name n hn
    obtain ⟨held, hget, hasks⟩ := hlisted { n with name := name } <| by
      rw [(resolved_of_valid hvalid).1]
      exact List.mem_map_of_mem ((Table.get?_eq_some_iff _ name n).1 hn)
    rw [World.contents, Table.get?_map] at hget
    obtain ⟨c', hc', rfl⟩ := Option.map_eq_some_iff.1 hget
    exact ⟨c', hc', Registry.Asks.rename.1 hasks⟩

/-- Whoever has applied all that is listed serves it. -/
theorem serves_of_applied (hw : w.Fresh) (hvalid : c.ensureValid = .ok ())
    (happlied : (applyAll (c.registrySettings host) t c.namespaces.resolved).run w = (.ok (), w')) :
    Serves (c.registrySettings host) t c.namespaces.namespaces
      (.registry (c.registrySettings host)) w' := by
  obtain ⟨-, hcoherent⟩ := (Registry.coherent_fresh (c.registrySettings host) hw 1).restored
    (restores_applyAll c.namespaces.resolved)
  rw [happlied] at hcoherent
  obtain ⟨hothers, hheld⟩ := bound_of_applied hw hvalid happlied
  have hhas (name : String) : w'.bound.contains name = c.namespaces.namespaces.contains name := by
    change _ = (c.namespaces.namespaces.get? name).isSome
    cases hget : c.namespaces.namespaces.get? name with
    | none => exact hothers name hget
    | some n =>
      obtain ⟨held, hbound, -⟩ := hheld name n hget
      rw [Table.contains, hbound]
      rfl
  exact {
    has := hhas
    default := hcoherent.default.trans (hhas defaultName)
    context := fun name n hn => by
      obtain ⟨held, hbound, hasks⟩ := hheld name n hn
      exact ⟨held, hbound, (hcoherent.bound name held hbound).1, hasks⟩ }

/-- **A valid configuration starts as it is written**, over any plugin registry and any host:

* its namespaces are those that are listed, in the order of their keys and called so;
* there is a service if and only if what each of them asks for can be had;
* the service has what is listed;
* where there is none, no argument was a bad one. -/
theorem start_of_valid (c : Config) (t : Files.Tree) (host : Option Holding) (hw : w.Fresh)
    (henabled : c.namespaces.enabled = true) (hvalid : c.ensureValid = .ok ()) :
    let s := c.registrySettings host
    let listed := c.namespaces.namespaces
    let started := (c.startService t host).run w
    c.namespaces.resolved = listed.pairs.map (fun n => { n.2 with name := n.1 }) ∧
    ((∃ service, started.1 = .ok service) ↔
      ∀ name n, listed.get? name = some n → ∃ entries order, Asks s t n entries order) ∧
    (∀ service, started.1 = .ok service → Serves s t listed service started.2) ∧
    ∀ e, started.1 = .error e → e.IsOfContent := by
  intro s listed started
  obtain ⟨hresolved, hallValid⟩ := resolved_of_valid hvalid
  generalize happlied : (applyAll s t c.namespaces.resolved).run w = applied
  obtain ⟨hanswer, es, hworld⟩ := run_startService hvalid henabled happlied
  rw [show (c.startService t host).run w = started from rfl] at hanswer hworld
  obtain ⟨x, w'⟩ := applied
  cases x with
  | ok _ =>
    have hserves := serves_of_applied hw hvalid happlied
    refine ⟨hresolved, ⟨fun _ name n hn => ?_, fun _ => ⟨_, hanswer⟩⟩, fun service hs => ?_, ?_⟩
    · obtain ⟨held, -, -, hasks⟩ := hserves.context name n hn
      exact ⟨_, _, hasks⟩
    · obtain rfl : Service.registry s = service := Except.ok.inj (hanswer.symm.trans hs)
      rw [hworld]
      exact ⟨hserves.has, hserves.default, hserves.context⟩
    · rw [hanswer]
      exact nofun
  | error e =>
    obtain ⟨done, n, rest, hsplit, -, hfailed, -⟩ := applyAll_error happlied
    have hmem : n ∈ c.namespaces.resolved := by rw [hsplit]; simp
    refine ⟨hresolved, ⟨?_, fun hall => ?_⟩, ?_, ?_⟩
    · rw [hanswer]
      exact nofun
    · -- what is asked for can be had, so it would have been applied
      obtain ⟨hname, -⟩ := NamespaceConfig.validate_ok (hallValid n hmem)
      rw [hresolved, List.mem_map] at hmem
      obtain ⟨⟨name, n⟩, hn, rfl⟩ := hmem
      obtain ⟨entries, order, hasks⟩ := hall name n ((listed.get?_eq_some_iff name n).2 hn)
      cases hfailed.symm.trans (Registry.prepared_of_asks hname (Registry.Asks.rename.2 hasks))
    · rw [hanswer]
      exact nofun
    · rw [hanswer]
      rintro _ ⟨⟩
      exact Registry.prepared_error (hallValid n hmem) hfailed

/-- The default namespace, and another with an order of its own. -/
def twoListed : Config :=
  let code : Option (List ResourceConfig) := some [{ id := "app.Order", payloadHex := some "07" }]
  { namespaces :=
      { enabled := true
        namespaces := .ofList [("orders", { resources := code, order := some .childFirst }),
          ("default", { name := "default", resources := code })] } }

/-- Both are there, each in its order. -/
theorem start_of_valid_twoListed :
    ∃ service, ((twoListed.startService ⟨[]⟩ none).run (World.initial (∅ : Plugin.Directory))).1 =
        .ok service ∧
      Serves (twoListed.registrySettings none) ⟨[]⟩ twoListed.namespaces.namespaces service
        ((twoListed.startService ⟨[]⟩ none).run (World.initial (∅ : Plugin.Directory))).2 ∧
      service.isDefaultDefined
        ((twoListed.startService ⟨[]⟩ none).run (World.initial (∅ : Plugin.Directory))).2 = true ∧
      ∃ held, service.contextFor
          ((twoListed.startService ⟨[]⟩ none).run (World.initial (∅ : Plugin.Directory))).2
          "orders" = some held ∧ held.order = .childFirst := by
  obtain ⟨-, hiff, hserves, -⟩ := start_of_valid twoListed ⟨[]⟩ none
    (World.fresh_initial (∅ : Plugin.Directory)) rfl (by decide +kernel)
  have hok : ((twoListed.startService ⟨[]⟩ none).run
      (World.initial (∅ : Plugin.Directory))).1.toOption.isSome = true := by decide +kernel
  have hsome : ∃ service, ((twoListed.startService ⟨[]⟩ none).run
      (World.initial (∅ : Plugin.Directory))).1 = .ok service := by
    generalize ((twoListed.startService ⟨[]⟩ none).run (World.initial (∅ : Plugin.Directory))).1 = x
      at hok ⊢
    cases x with
    | ok service => exact ⟨service, rfl⟩
    | error e => cases hok
  obtain ⟨service, hservice⟩ := hsome
  have hs := hserves service hservice
  have horders : twoListed.namespaces.namespaces.get? "orders" =
      some { resources := some [{ id := "app.Order", payloadHex := some "07" }],
             order := some .childFirst } := by decide +kernel
  obtain ⟨held, hheld, -, horder, -⟩ := hs.context "orders" _ horders
  exact ⟨service, hservice, hs, hs.default.trans (by decide +kernel), held, hheld, horder⟩

end Config

end Tenancy
