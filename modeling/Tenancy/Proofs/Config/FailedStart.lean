import Tenancy.Config.Startup
import Tenancy.Proofs.Registry.Ownership

/-!
# Proofs/Config/FailedStart — what a start that fails leaves behind

A start from a configuration applies the namespaces in turn and stops at the first that fails.
Nobody has the registry then, but the directory is still there, and so is what the namespaces before
that one have registered:

    entries after  =  entries before ++ what the installed contexts should have

(`Config.plugins_of_failed_start`).  So the directory is as it was if and only if there is nothing
that they should have.
-/

namespace Tenancy

open Plugin (Directory Listing Registration)
open Plugin.Directory (offer)

/-! ## Entries that stay -/

namespace Plugin.Directory

variable {old : List Listing} {mine : ContextId → Prop} {d : Directory}

/-- The old entries are there, and after them only entries of owners such as these. -/
def Keeps (old : List Listing) (mine : ContextId → Prop) (d : Directory) : Prop :=
  ∃ left, d.entries = old ++ left ∧ ∀ e ∈ left, mine e.registration.owner

namespace Keeps

theorem registerAll (h : d.Keeps old mine) {rs : List Registration} (hrs : ∀ r ∈ rs, mine r.owner) :
    (d.registerAll rs).Keeps old mine := by
  obtain ⟨left, hentries, hleft⟩ := h
  obtain ⟨new, hnew, hregistered⟩ := d.entries_registerAll rs
  refine ⟨left ++ new, by rw [hnew, hentries, List.append_assoc], fun e he => ?_⟩
  rcases List.mem_append.1 he with he | he
  · exact hleft e he
  · exact hrs _ (hregistered e he)

theorem withdraw (h : d.Keeps old mine) {o : ContextId}
    (ho : ∀ e ∈ old, e.registration.owner ≠ o) : (d.withdraw o).Keeps old mine := by
  obtain ⟨left, hentries, hleft⟩ := h
  refine ⟨left.filter fun e => e.registration.owner ≠ o, ?_, fun e he => ?_⟩
  · have hold : (old.filter fun e => e.registration.owner ≠ o) = old :=
      List.filter_eq_self.2 fun e he => decide_eq_true (ho e he)
    rw [entries_withdraw, hentries, List.filter_append, hold]
  · exact hleft e (List.mem_filter.1 he).1

end Keeps

end Plugin.Directory

namespace Registry

variable {s : RegistrySettings} {mine : ContextId → Prop} {w w' : World Directory}
  {old : List Listing}

/-- **A call adds and removes entries of the registry's contexts only**, behind the old ones. -/
theorem Coherent.keeps_effect (h : Coherent s mine [.idle] w) {x : Except NamespaceError Bool}
    (he : Effect s w w' x) (hold : ∀ e ∈ old, ¬ mine e.registration.owner)
    (hk : w.plugins.Keeps old mine) : w'.plugins.Keeps old mine := by
  have hbound : ∀ {w₁ : World Directory} {name : String} {c : Context},
      Coherent s mine [.idle] w₁ → w₁.bound.get? name = some c →
      ∀ e ∈ old, e.registration.owner ≠ c.id := fun h₁ hc e heold howner => by
    have hmine := (h₁.known _ (mem_charges_of_bound _ hc)).1
    exact hold e heold (howner ▸ hmine)
  cases he with
  | nothing hx hw => rw [hw]; exact hk
  | installs es name entries order hw =>
    have hes := h.calm (.events w es)
    rw [hw, hes.plugins_install name entries order]
    refine Directory.Keeps.registerAll ?_ fun r hr => ?_
    · cases hprevious : w.bound.get? name with
      | none => exact hk
      | some p => exact hk.withdraw (hbound h hprevious)
    · obtain ⟨p, -, rfl⟩ := List.mem_map.1 hr
      exact h.ahead _ (Nat.le_refl _)
  | removes name hname hw =>
    obtain ⟨c, hc⟩ := Option.isSome_iff_exists.1 hname
    rw [hw, plugins_remove hc]
    exact hk.withdraw (hbound h hc)

theorem run_callAll_cons {σ : Type} [Plugin.Backend σ] (c : Call) (cs : List Call) (w : World σ) :
    (callAll s (c :: cs)).run w =
      (((c.program s).run w).1 :: ((callAll s cs).run ((c.program s).run w).2).1,
        ((callAll s cs).run ((c.program s).run w).2).2) := by
  rw [callAll, Program.run_bind, Program.run_bind]
  rfl

theorem Coherent.keeps_calls (h : Coherent s mine [.idle] w) (cs : List Call)
    (hold : ∀ e ∈ old, ¬ mine e.registration.owner) (hk : w.plugins.Keeps old mine) :
    ((callAll s cs).run w).2.plugins.Keeps old mine := by
  induction cs generalizing w with
  | nil => exact hk
  | cons c cs ih =>
    obtain ⟨-, heffect⟩ := call_means s c w
    obtain ⟨-, h'⟩ := h.restored (restores_program c)
    rw [run_callAll_cons]
    exact ih h' (h.keeps_effect heffect hold hk)

theorem Settled.calls (h : Settled s mine w) (cs : List Call) :
    let w' := ((callAll s cs).run w).2
    ∃ mine', Settled s mine' w' ∧ ours mine' w' = ours mine w := by
  induction cs generalizing mine w with
  | nil => exact ⟨mine, h, rfl⟩
  | cons c cs ih =>
    obtain ⟨mine', h', hours⟩ := ih (h.call c)
    rw [run_callAll_cons]
    exact ⟨mine', h', hours.trans (ours_taken mine (Program.nextId_le_run (c.program s) w))⟩

/-! ## What is left behind -/

/-- **Behind the entries of before are those of the contexts that are bound**, for each of them what
it should have. -/
structure LeavesBehind (s : RegistrySettings) (w w' : World Directory) (left : List Listing) :
    Prop where
  entries : w'.plugins.entries = w.plugins.entries ++ left
  owned : ∀ e ∈ left, ∃ name c, w'.bound.get? name = some c ∧ e.registration.owner = c.id
  wanted : ∀ name c, w'.bound.get? name = some c → ∀ active,
    (left.filter fun e => e.registration.owner = c.id).map (·.registration) =
      (Bridge.wanted s.bridge active c w').map fun p => ⟨p.1, p.2, c.id, name⟩

/-- The directory is as it was, if no context that is bound should have anything. -/
theorem LeavesBehind.entries_eq_iff {left : List Listing} (h : LeavesBehind s w w' left) :
    w'.plugins.entries = w.plugins.entries ↔
      ∀ name c, w'.bound.get? name = some c → Bridge.wanted s.bridge none c w' = [] := by
  rw [h.entries, List.append_right_eq_self]
  constructor
  · rintro rfl name c hc
    exact List.map_eq_nil_iff.1 (h.wanted name c hc none).symm
  · intro hnone
    refine List.eq_nil_iff_forall_not_mem.2 fun e he => ?_
    obtain ⟨name, c, hc, howner⟩ := h.owned e he
    have hmem : e ∈ left.filter fun e => e.registration.owner = c.id :=
      List.mem_filter.2 ⟨he, decide_eq_true howner⟩
    have hempty := h.wanted name c hc none
    rw [hnone name c hc, List.map_nil, List.map_eq_nil_iff] at hempty
    rw [hempty] at hmem
    cases hmem

/-- Reports do not matter. -/
theorem LeavesBehind.events {left : List Listing} (h : LeavesBehind s w w' left)
    (hw' : Coherent s mine [.idle] w') (es : List Event) :
    LeavesBehind s w { w' with events := es } left where
  entries := h.entries
  owned := h.owned
  wanted name c hc active := by
    have hagree : w'.view.Agree { w' with events := es }.view c.source :=
      hw'.agree hw' (fun _ _ => rfl) hc hc
    rw [← Bridge.wanted_congr hagree active active]
    exact h.wanted name c hc active

/-- What has entries is bound, if it is the registry's: anything else of the registry is disposed
of, and has none. -/
theorem Settled.bound_of_owned (h : Settled s mine w) {e : Listing} (he : e ∈ w.plugins.entries)
    (ho : ours mine w e.registration.owner) :
    ∃ name c, w.bound.get? name = some c ∧ e.registration.owner = c.id := by
  have hmem : e ∈ w.plugins.ownedBy e.registration.owner := Directory.mem_ownedBy.2 ⟨he, rfl⟩
  have hborn : e.registration.owner.number < w.nextId := by
    by_contra hnot
    rw [h.unborn _ (Nat.le_of_not_lt hnot)] at hmem
    cases hmem
  by_contra hunbound
  have hcharges : e.registration.owner ∉ charges [.idle] w := fun hid => by
    have hid' : e.registration.owner ∈ w.bound.values.map Context.id := hid
    obtain ⟨c, hvalue, hcid⟩ := List.mem_map.1 hid'
    obtain ⟨name, hc⟩ := (w.bound.mem_values_iff c).1 hvalue
    exact hunbound ⟨name, c, hc, hcid.symm⟩
  have hdisposed := (h.coherent.retired _ ho hborn hcharges).1
  rw [h.accounted.cleared _ ho hdisposed] at hmem
  cases hmem

/-- Whoever calls a fresh registry leaves behind what its contexts should have. -/
theorem leavesBehind_calls (s : RegistrySettings) (hw : w.Fresh)
    (hnone : ∀ id, w.nextId ≤ id.number → w.plugins.ownedBy id = []) (cs : List Call) :
    ∃ left, LeavesBehind s w ((callAll s cs).run w).2 left := by
  have hold : ∀ e ∈ w.plugins.entries, ¬ w.nextId ≤ e.registration.owner.number :=
    fun e he hid => by
      have hmem := Directory.mem_ownedBy.2 ⟨he, rfl⟩
      rw [hnone _ hid] at hmem
      cases hmem
  obtain ⟨left, hentries, hleft⟩ := (coherent_fresh s hw 1).keeps_calls cs hold
    ⟨[], (List.append_nil _).symm, List.forall_mem_nil _⟩
  obtain ⟨mine', hs, hours⟩ := (Settled.of_fresh s hw hnone).calls cs
  generalize ((callAll s cs).run w).2 = w' at hentries hs hours
  refine ⟨left, hentries, fun e he => ?_, fun name c hc active => ?_⟩
  · refine hs.bound_of_owned (hentries ▸ List.mem_append_right _ he) ?_
    rw [hours]
    exact .inr (hleft e he)
  · have hmine : ours mine' w' c.id := (hs.coherent.known c.id (mem_charges_of_bound _ hc)).1
    rw [hours] at hmine
    have hown : w'.plugins.ownedBy c.id = left.filter fun e => e.registration.owner = c.id := by
      rw [Directory.ownedBy, hentries, List.filter_append, List.filter_eq_nil_iff.2,
        List.nil_append]
      intro e he howner
      exact hold e he (of_decide_eq_true howner ▸ hmine.resolve_left id)
    have hagree := hs.coherent.agree hs.coherent (fun _ _ => rfl) hc hc
    rw [← hown, ← Bridge.wanted_congr hagree none active, ← hs.coherent.name_of_bound hc]
    exact hs.enlisted name c hc

/-- Applying a namespace fails if and only if its content cannot be had, and then for that
reason. -/
theorem answer_apply {σ : Type} [Plugin.Backend σ] (t : Files.Tree) (n : NamespaceConfig)
    (w : World σ) (e : NamespaceError) :
    (((Call.apply t n).program s).run w).1 = .error e ↔
      prepared s n.name (n.toDefinitions t) = .error e := by
  obtain ⟨hmeaning, -⟩ := call_means s (.apply t n) w
  rw [congrArg Prod.fst hmeaning, Call.meaning]
  cases hprepared : prepared s n.name (n.toDefinitions t) with
  | error e' => simp [put, Except.toOption]
  | ok entries =>
    split
    · simp
    · simp [put]

end Registry

/-! ## Starts -/

namespace Config

open Registry (Call callAll meaningAll prepared LeavesBehind)

section

variable {σ : Type} [Plugin.Backend σ] {w w' : World σ} {s : RegistrySettings}

/-- The namespaces before the first that fails are applied, and no others. -/
theorem applyAll_error {t : Files.Tree} {ns : List NamespaceConfig} {e : NamespaceError}
    (hrun : (applyAll s t ns).run w = (.error e, w')) :
    ∃ done n rest, ns = done ++ n :: rest ∧
      (∀ m ∈ done, ∃ entries, prepared s m.name (m.toDefinitions t) = .ok entries) ∧
      prepared s n.name (n.toDefinitions t) = .error e ∧
      ∃ es, w' = { ((callAll s (done.map (.apply t))).run w).2 with events := es } := by
  -- the failing namespace is the first, or the first of those after one that is applied
  induction ns generalizing w with
  | nil => cases hrun
  | cons n ns ih =>
    have hanswer := Registry.answer_apply (s := s) t n w
    obtain ⟨-, heffect⟩ := Registry.call_means s (.apply t n) w
    rw [applyAll, Program.run_bind] at hrun
    generalize hfirst : (Registry.apply s t n).run w = first at hrun
    rw [Call.program, hfirst] at hanswer heffect
    obtain ⟨x, w₁⟩ := first
    cases x with
    | error e₁ =>
      cases hrun
      refine ⟨[], n, ns, rfl, List.forall_mem_nil _, (hanswer e).1 rfl, w₁.events, ?_⟩
      cases heffect with
      | nothing _ hw => exact hw
    | ok b =>
      obtain ⟨done, m, rest, rfl, hdone, hm, es, hw'⟩ := ih hrun
      refine ⟨n :: done, m, rest, rfl, List.forall_mem_cons.2 ⟨?_, hdone⟩, hm, es, ?_⟩
      · cases hprepared : prepared s n.name (n.toDefinitions t) with
        | ok entries => exact ⟨entries, rfl⟩
        | error e₁ => cases (hanswer e₁).2 hprepared
      · rw [List.map_cons, Registry.run_callAll_cons, Call.program, hfirst]
        exact hw'

variable {c : Config} {t : Files.Tree} {host : Option Holding} {e : NamespaceError}

/-- A registry fails with one of its namespaces. -/
theorem startRegistry_error (hrun : (c.startRegistry t host).run w = (.error e, w')) :
    (applyAll (c.registrySettings host) t c.namespaces.resolved).run w = (.error e, w') := by
  rw [startRegistry, Program.run_bind] at hrun
  generalize (applyAll (c.registrySettings host) t c.namespaces.resolved).run w = all at hrun ⊢
  obtain ⟨x, w₁⟩ := all
  cases x with
  | ok _ => cases hrun
  | error e₁ =>
    cases hrun
    rfl

/-- A service fails before anything is done, or with its registry. -/
theorem startService_error (hrun : (c.startService t host).run w = (.error e, w')) :
    (c.ensureValid = .error e ∧ w' = w) ∨ (c.startRegistry t host).run w = (.error e, w') := by
  unfold startService at hrun
  cases hvalid : c.ensureValid with
  | error e₁ =>
    rw [hvalid] at hrun
    cases hrun
    exact .inl ⟨rfl, rfl⟩
  | ok _ =>
    simp only [hvalid] at hrun
    refine .inr ?_
    split at hrun
    · rw [Program.run_bind] at hrun
      generalize (c.startRegistry t host).run w = started at hrun ⊢
      obtain ⟨x, w₁⟩ := started
      cases x with
      | ok _ => cases hrun
      | error e₁ =>
        cases hrun
        rfl
    · cases hrun

end

variable {w : World Directory}

/-- **A start that fails leaves behind what the namespaces before the failing one have
registered.**  The entries of before stay, and the directory is as it was if and only if no context
that was installed should have any.  A service fails before anything is done, or with its
registry. -/
theorem plugins_of_failed_start (c : Config) (t : Files.Tree) (host : Option Holding)
    (hw : w.Fresh) (hnone : ∀ id, w.nextId ≤ id.number → w.plugins.ownedBy id = []) :
    let s := c.registrySettings host
    (∀ e w', (c.startRegistry t host).run w = (.error e, w') →
      ∃ done n rest left, c.namespaces.resolved = done ++ n :: rest ∧
        (∀ m ∈ done, ∃ entries, prepared s m.name (m.toDefinitions t) = .ok entries) ∧
        prepared s n.name (n.toDefinitions t) = .error e ∧
        w'.contents = (meaningAll s (done.map (.apply t)) ∅).2 ∧
        LeavesBehind s w w' left ∧
        (w'.plugins.entries = w.plugins.entries ↔
          ∀ name c, w'.bound.get? name = some c → Bridge.wanted s.bridge none c w' = [])) ∧
    ∀ e w', (c.startService t host).run w = (.error e, w') →
      (c.ensureValid = .error e ∧ w' = w) ∨ (c.startRegistry t host).run w = (.error e, w') := by
  intro s
  refine ⟨fun e w' hrun => ?_, fun e w' => startService_error⟩
  have h := Registry.coherent_fresh s hw 1
  obtain ⟨done, n, rest, hsplit, hdone, hn, es, rfl⟩ := applyAll_error (startRegistry_error hrun)
  obtain ⟨left, hleft⟩ := Registry.leavesBehind_calls s hw hnone (done.map (.apply t))
  obtain ⟨hmeaning, -⟩ := h.calls (done.map (.apply t))
  obtain ⟨-, h'⟩ := h.restored (Registry.restores_callAll (done.map (.apply t)))
  have hempty : w.contents = ∅ := by rw [World.contents, hw.bound]; rfl
  have hleft' := hleft.events h' es
  rw [hempty] at hmeaning
  exact ⟨done, n, rest, left, hsplit, hdone, hn, congrArg Prod.snd hmeaning, hleft',
    hleft'.entries_eq_iff⟩

/-- A host with a manifest that lists one driver. -/
def driverHost : Holding :=
  let manifest : ArtifactKey := .data "META-INF/services/sql.Driver"
  ⟨⟨1⟩, "host", Table.insert ∅ manifest (.compress manifest (utf8 "app.Driver")), .raw⟩

/-- The first namespace defines the driver, the second cannot be read. -/
def unreadable : Config :=
  let code (hex : String) : NamespaceConfig :=
    { resources := some [{ id := "app.Driver", payloadHex := some hex }] }
  { namespaces := { enabled := true, namespaces := .ofList [("a", code "00"), ("b", code "zz")] } }

/-- A world that has nothing but the host. -/
def hostOnly : World Directory :=
  { World.initial ∅ with nextId := 2 }

/-- The directory is not as it was, since the first namespace should have its driver. -/
theorem plugins_of_failed_start_unreadable :
    let started := (unreadable.startRegistry ⟨[]⟩ (some driverHost)).run hostOnly
    started.1 = .error (.resourceFormat "app.Driver" (.hex (.badDigit 'z' 0))) ∧
      started.2.plugins.entries ≠ hostOnly.plugins.entries := by
  have hw : hostOnly.Fresh := ⟨rfl, rfl, fun _ _ => rfl⟩
  have herror : ((unreadable.startRegistry ⟨[]⟩ (some driverHost)).run hostOnly).1 =
      .error (.resourceFormat "app.Driver" (.hex (.badDigit 'z' 0))) := by
    have hmap :
        ((unreadable.startRegistry ⟨[]⟩ (some driverHost)).run hostOnly).1.map (fun _ => ()) =
        .error (.resourceFormat "app.Driver" (.hex (.badDigit 'z' 0))) := by decide +kernel
    generalize ((unreadable.startRegistry ⟨[]⟩ (some driverHost)).run hostOnly).1 = x at hmap ⊢
    cases x with
    | error e => cases hmap; rfl
    | ok s => cases hmap
  have hwanted : (((unreadable.startRegistry ⟨[]⟩ (some driverHost)).run hostOnly).2.bound.get?
      "a").map (fun c => Bridge.wanted unreadable.bridge none c
        ((unreadable.startRegistry ⟨[]⟩ (some driverHost)).run hostOnly).2) =
      some [("sql.Driver", "app.Driver")] := by decide +kernel
  obtain ⟨c, hc, hcwanted⟩ := Option.map_eq_some_iff.1 hwanted
  obtain ⟨hregistry, -⟩ :=
    plugins_of_failed_start unreadable ⟨[]⟩ (some driverHost) hw fun _ _ => rfl
  obtain ⟨-, -, -, -, -, -, -, -, -, hiff⟩ := hregistry _ _ (Prod.ext herror rfl)
  refine ⟨herror, fun hsame => ?_⟩
  have hempty := hiff.1 hsame "a" c hc
  rw [show (unreadable.registrySettings (some driverHost)).bridge = unreadable.bridge from rfl,
    hcwanted] at hempty
  cases hempty

/-- The driver of the first namespace is left behind when the second cannot be read. -/
theorem plugins_of_unreadable :
    let started := (unreadable.startService ⟨[]⟩ (some driverHost)).run hostOnly
    started.1.toOption.isNone = true ∧ hostOnly.plugins.entries = [] ∧
      started.2.plugins.entries.map (·.registration) =
        [⟨"sql.Driver", "app.Driver", ⟨2⟩, "a"⟩] := by
  decide +kernel

end Config

end Tenancy
