import Tenancy.Proofs.Registry.Contents
import Tenancy.Proofs.Registry.Enlisting
import Tenancy.Proofs.Registry.Interleaving

/-!
# Proofs/Registry/Ownership — who owns what in a shared driver directory

A registry and others take turns at one driver directory; what the others do there under identities
of their own is up to them (`Registry.Undisturbed`).  Whenever no call is under way,

    entries of c, in their order  =  what c should have     where c is bound
    entries of c                  =  none                   where c was bound once

and a call leaves the entries of everybody else alone (`Registry.plugins_wanted`).
-/

namespace Tenancy

open Plugin (Directory)
open Plugin.Directory (offer)

/-! ## What no program does -/

/-- No program lets go of a source. -/
theorem Program.gone_run {σ α : Type} [Plugin.Backend σ] (p : Program α) (w : World σ) :
    (p.run w).2.gone = w.gone := by
  induction p generalizing w with
  | done x => rfl
  | act a next ih =>
    refine (ih _ _).trans ?_
    cases a <;> rfl

/-- No program gives an identity back. -/
theorem Program.nextId_le_run {σ α : Type} [Plugin.Backend σ] (p : Program α) (w : World σ) :
    w.nextId ≤ (p.run w).2.nextId := by
  induction p generalizing w with
  | done x => exact Nat.le_refl _
  | act a next ih =>
    refine Nat.le_trans ?_ (ih _ _)
    cases a with
    | allocate => exact Nat.le_succ _
    | _ => exact Nat.le_refl _

/-- The identity was taken between the one world and the other. -/
def World.Taken {σ : Type} (w w' : World σ) (id : ContextId) : Prop :=
  w.nextId ≤ id.number ∧ id.number < w'.nextId

namespace Registry

variable {s : RegistrySettings} {mine mine' : ContextId → Prop} {gs gs' : List Duty}

/-! ## Contexts of the registry -/

theorem mem_hostLayers {l : Layer} (hl : l ∈ (s.host.map Layer.host).toList) :
    ∃ host, s.host = some host ∧ l = .host host := by
  obtain ⟨host, hhost, rfl⟩ := Option.map_eq_some_iff.1 (Option.mem_toList.1 hl)
  exact ⟨host, hhost, rfl⟩

/-- What is bound in two worlds answers the same in both, the host being held in both or in
neither. -/
theorem Coherent.agree {σ : Type} {w w' : World σ} (h : Coherent s mine gs w)
    (h' : Coherent s mine' gs' w')
    (hhost : ∀ host, s.host = some host → w.view.isHeld host.id = w'.view.isHeld host.id)
    {name name' : String} {c : Context} (hc : w.bound.get? name = some c)
    (hc' : w'.bound.get? name' = some c) : w.view.Agree w'.view c.source := by
  obtain ⟨hactive, id, entries, order, rfl⟩ := h.bound name c hc
  obtain ⟨hactive', -⟩ := h'.bound name' _ hc'
  refine ⟨fun l hl => ?_, fun own order' hl => ?_, fun l hl => ?_⟩
  · rcases List.mem_cons.1 hl with rfl | hl
    · exact trivial
    · obtain ⟨host, -, rfl⟩ := mem_hostLayers hl
      exact trivial
  · rcases List.mem_cons.1 hl with hl | hl
    · cases hl
      exact (decide_eq_true hactive).trans (decide_eq_true hactive').symm
    · obtain ⟨host, -, hl⟩ := mem_hostLayers hl
      cases hl
  · obtain ⟨host, hsome, rfl⟩ := mem_hostLayers hl
    exact hhost host hsome

variable {w w' : World Directory}

/-! ## What a call does to the directory -/

/-- The directory after a context was retired, if there was one. -/
def withdrawn (previous : Option Context) (d : Directory) : Directory :=
  previous.elim d fun p => d.withdraw p.id

theorem plugins_displace (previous : Option Context) (w : World Directory) :
    ((displace previous).run w).2.plugins = withdrawn previous w.plugins := by
  cases previous with
  | none => rfl
  | some p => exact plugins_retire p w

theorem ownedBy_withdrawn {previous : Option Context} {id : ContextId}
    (h : ∀ p, previous = some p → id ≠ p.id) (d : Directory) :
    (withdrawn previous d).ownedBy id = d.ownedBy id := by
  cases previous with
  | none => rfl
  | some p => exact d.ownedBy_withdraw_ne (h p rfl)

namespace Coherent

theorem plugins_settle {previous : Option Context} {name : String} {c : Context}
    (h : Coherent s mine [Duty.idle.takes previous] w) (hc : w.bound.get? name = some c) :
    let w' := ((settle s previous c).run w).2
    w'.plugins =
      (withdrawn previous w.plugins).registerAll (Bridge.offers s.bridge none c w') := by
  intro w'
  obtain ⟨hsame, g, rfl, h₁⟩ := h.quiet (keeps_displace previous)
  have hplugins := plugins_displace previous w
  have hrun : w' = ((Bridge.enlist s.bridge none c).run ((displace previous).run w).2).2 := by
    show ((settle s previous c).run w).2 = _
    simp only [settle, Program.run_bind]
    rfl
  generalize ((displace previous).run w).2 = w₁ at hsame h₁ hplugins hrun
  have hc₁ : w₁.bound.get? name = some c := by rw [hsame.bound]; exact hc
  have hcalm := Bridge.calm_enlist s.bridge none (h₁.bound name c hc₁).1
  rw [← hrun] at hcalm
  -- what is offered depends on the view only, and registering leaves that as it is
  have hview : w'.view = w₁.view := hcalm.view_eq
  have hagree : w₁.view.Agree w'.view c.source := by
    rw [hview]
    exact h₁.agree h₁ (fun _ _ => rfl) hc₁ hc₁
  rw [hcalm.plugins, hplugins, Bridge.offers_congr hagree]

/-- **Installing withdraws what was bound before and registers what the new context offers.** -/
theorem plugins_install (h : Coherent s mine [.idle] w) (name : String) (entries : ArtifactMap)
    (order : ResolutionOrder) :
    let w' := ((Registry.install s name entries order).run w).2
    w'.plugins = (withdrawn (w.bound.get? name) w.plugins).registerAll
      (Bridge.offers s.bridge none (contextOf s ⟨w.nextId⟩ name entries order) w') := by
  obtain ⟨e, he⟩ := install_eq s name entries order
  have hbound := ((h.allocate rfl).bind name rfl entries order).calm
    (.events _ (e ⟨w.nextId⟩ (w.bound.get? name) :: w.events))
  rw [he]
  exact hbound.plugins_settle (Table.get?_insert_self ..)

/-- Removing withdraws what was bound. -/
theorem plugins_remove {name : String} {c : Context} (hc : w.bound.get? name = some c) :
    ((Registry.remove name).run w).2.plugins = w.plugins.withdraw c.id := by
  obtain ⟨e, he⟩ := remove_eq name
  have hanswer : (w.perform (.unbind name)).1 = some c := hc
  rw [he, Program.run_act, hanswer, Option.elim_some, Program.run_act, Program.run_bind]
  exact plugins_retire c _

/-- **A call touches the plugins of the context that it takes out of use, and of the one that it
puts there**, and nobody else's. -/
theorem ownedBy_call (h : Coherent s mine [.idle] w) {x : Except NamespaceError Bool}
    (he : Effect s w w' x) {id : ContextId} (hid : ¬ w.Taken w' id)
    (hkept : ∀ name c, w.bound.get? name = some c → c.id = id → w'.bound.get? name = some c) :
    w'.plugins.ownedBy id = w.plugins.ownedBy id := by
  cases he with
  | nothing hx hw => rw [hw]
  | installs es name entries order hw =>
    have hes := h.calm (.events w es)
    obtain ⟨hnext, hbound⟩ := run_install s name entries order { w with events := es }
    have hplugins := hes.plugins_install name entries order
    rw [← hw] at hnext hbound hplugins
    have hnew : id ≠ ⟨w.nextId⟩ := by
      rintro rfl
      exact hid ⟨Nat.le_refl _, Nat.lt_of_lt_of_eq (Nat.lt_succ_self _) hnext.symm⟩
    rw [hplugins, Bridge.ownedBy_offers_ne hnew]
    refine ownedBy_withdrawn (fun p hp hid' => ?_) w.plugins
    have hp' := hkept name p hp hid'.symm
    rw [hbound, Table.get?_insert_self] at hp'
    cases hp'
    exact hnew hid'
  | removes name hname hw =>
    obtain ⟨-, -, hbound, -⟩ := run_remove name w
    rw [← hw] at hbound
    obtain ⟨c, hc⟩ := Option.isSome_iff_exists.1 hname
    have hne : id ≠ c.id := fun hid' => by
      have hc' := hkept name c hc hid'.symm
      rw [hbound, Table.get?_erase_self] at hc'
      cases hc'
    rw [hw, plugins_remove hc, Directory.ownedBy_withdraw_ne _ hne]

end Coherent

/-! ## Between calls -/

/-- The identities that the registry took or may yet take. -/
def ours (mine : ContextId → Prop) (w : World Directory) (id : ContextId) : Prop :=
  mine id ∨ w.nextId ≤ id.number

/-- What was taken may have been taken. -/
theorem ours_taken (mine : ContextId → Prop) (h : w.nextId ≤ w'.nextId) :
    ours (fun id => mine id ∨ w.Taken w' id) w' = ours mine w := by
  refine funext fun id => propext ⟨?_, ?_⟩
  · rintro ((hm | ht) | hid)
    · exact .inl hm
    · exact .inr ht.1
    · exact .inr (Nat.le_trans h hid)
  · rintro (hm | hid)
    · exact .inl (.inl hm)
    · exact (Nat.lt_or_ge id.number w'.nextId).imp (fun hlt => .inr ⟨hid, hlt⟩) fun hge => hge

/-- **Between calls everybody has what they should have.** -/
structure Settled (s : RegistrySettings) (mine : ContextId → Prop) (w : World Directory) :
    Prop where
  coherent : Coherent s (ours mine w) [.idle] w
  accounted : Accounted (ours mine w) [.idle] w
  born : ∀ id, mine id → id.number < w.nextId
  unborn : ∀ id, w.nextId ≤ id.number → w.plugins.ownedBy id = []
  enlisted : ∀ name c, w.bound.get? name = some c →
    w.plugins.registrations c.id = (Bridge.wanted s.bridge none c w).map (offer c.id c.name)

/-- What others may have done: anything but to touch the registry's names, contexts, entries and
host, or what has an identity that is not taken. -/
structure Undisturbed (s : RegistrySettings) (mine : ContextId → Prop) (w w' : World Directory) :
    Prop where
  nextId : w.nextId ≤ w'.nextId
  bound : w'.bound = w.bound
  defaultDefined : w'.defaultDefined = w.defaultDefined
  host : ∀ host, s.host = some host → w.view.isHeld host.id = w'.view.isHeld host.id
  state : ∀ id, mine id → (w'.life id).state = (w.life id).state
  inFlight : ∀ id, mine id → (w'.life id).inFlight = (w.life id).inFlight
  owned : ∀ id, mine id → w'.plugins.ownedBy id = w.plugins.ownedBy id
  unborn : ∀ id, w'.nextId ≤ id.number → w'.life id = {} ∧ w'.plugins.ownedBy id = []

namespace Settled

/-- At first the registry has nothing. -/
theorem of_fresh (s : RegistrySettings) (hw : w.Fresh)
    (hnone : ∀ id, w.nextId ≤ id.number → w.plugins.ownedBy id = []) :
    Settled s (fun _ => False) w := by
  have hours : ours (fun _ => False) w = fun id => w.nextId ≤ id.number :=
    funext fun _ => propext (or_iff_right not_false)
  refine ⟨?_, ?_, nofun, hnone, fun name c hc => ?_⟩
  · rw [hours]; exact coherent_fresh s hw 1
  · rw [hours]; exact .of_fresh hw 1
  · rw [hw.bound] at hc; cases hc

theorem mine_of_bound (h : Settled s mine w) {name : String} {c : Context}
    (hc : w.bound.get? name = some c) : mine c.id := by
  obtain ⟨hours, hborn⟩ := h.coherent.known c.id (mem_charges_of_bound _ hc)
  exact hours.resolve_right (Nat.not_le.2 hborn)

theorem coherent_others (h : Settled s mine w) (hu : Undisturbed s mine w w') :
    Coherent s (ours mine w') [.idle] w' := by
  have hcharges : charges [.idle] w' = charges [.idle] w := by rw [charges, charges, hu.bound]
  refine {
    ahead := fun id hid => .inr hid
    unborn := fun id hid => by rw [(hu.unborn id hid).1]
    sole := by rw [hcharges]; exact h.coherent.sole
    known := fun id hid => ?_
    retired := fun id ho hn hid => ?_
    counted := fun id ho => ?_
    fits := fun g hg => ?_
    bound := fun name c hc => ?_
    default := by rw [hu.defaultDefined, hu.bound]; exact h.coherent.default }
  · rw [hcharges] at hid
    obtain ⟨ho, hn⟩ := h.coherent.known id hid
    exact ⟨.inl (ho.resolve_right (Nat.not_le.2 hn)), Nat.lt_of_lt_of_le hn hu.nextId⟩
  · rw [hcharges] at hid
    have hm : mine id := ho.resolve_right (Nat.not_le.2 hn)
    rw [hu.state id hm, hu.inFlight id hm]
    exact h.coherent.retired id (.inl hm) (h.born id hm) hid
  · rcases ho with hm | hid
    · rw [hu.inFlight id hm]
      exact h.coherent.counted id (.inl hm)
    · rw [(hu.unborn id hid).1]
      rfl
  · obtain rfl := List.mem_singleton.1 hg
    rintro id stage ⟨⟩
  · rw [hu.bound] at hc
    rw [hu.state c.id (h.mine_of_bound hc)]
    exact h.coherent.bound name c hc

/-- **Others do not disturb what is settled.** -/
theorem others (h : Settled s mine w) (hu : Undisturbed s mine w w') : Settled s mine w' := by
  refine ⟨h.coherent_others hu, ⟨fun g hg c left hcharge => ?_, fun id ho hd => ?_⟩,
    fun id hm => Nat.lt_of_lt_of_le (h.born id hm) hu.nextId, fun id hid => (hu.unborn id hid).2,
    fun name c hc => ?_⟩
  · obtain rfl := List.mem_singleton.1 hg
    cases hcharge
  · rcases ho with hm | hid
    · rw [hu.state id hm] at hd
      rw [hu.owned id hm]
      exact h.accounted.cleared id (.inl hm) hd
    · exact (hu.unborn id hid).2
  · have hc' := hc
    rw [hu.bound] at hc'
    have hagree := h.coherent.agree (h.coherent_others hu) hu.host hc' hc
    rw [Directory.registrations, hu.owned c.id (h.mine_of_bound hc'),
      ← Bridge.wanted_congr hagree none none]
    exact h.enlisted name c hc'

/-! ### A call -/

/-- What stays bound keeps its plugins, and should have the same. -/
theorem enlisted_kept (h : Settled s mine w) (h' : Coherent s (ours mine w) [.idle] w')
    {x : Except NamespaceError Bool} (he : Effect s w w' x) (hgone : w'.gone = w.gone)
    {name : String} {c : Context} (hc : w.bound.get? name = some c)
    (hc' : w'.bound.get? name = some c) :
    w'.plugins.registrations c.id =
      (Bridge.wanted s.bridge none c w').map (offer c.id c.name) := by
  have hborn := h.born c.id (h.mine_of_bound hc)
  have hheld : ∀ host, s.host = some host → w.view.isHeld host.id = w'.view.isHeld host.id :=
    fun host _ => by rw [World.view, World.view, hgone]
  have howned : w'.plugins.ownedBy c.id = w.plugins.ownedBy c.id := by
    refine h.coherent.ownedBy_call he (fun ht => Nat.not_lt.2 ht.1 hborn) fun name₁ c₁ hc₁ hid => ?_
    -- `c` is in use afterwards, so what has its identity was not displaced
    refine (h.coherent.displaced h' he hc₁).resolve_right fun hd => ?_
    rw [hid, (h'.bound name c hc').1] at hd
    cases hd
  rw [Directory.registrations, howned,
    ← Bridge.wanted_congr (h.coherent.agree h' hheld hc hc') none none]
  exact h.enlisted name c hc

theorem enlisted_call (h : Settled s mine w) (h' : Coherent s (ours mine w) [.idle] w')
    {x : Except NamespaceError Bool} (he : Effect s w w' x) (hgone : w'.gone = w.gone)
    {name : String} {c : Context} (hc : w'.bound.get? name = some c) :
    w'.plugins.registrations c.id =
      (Bridge.wanted s.bridge none c w').map (offer c.id c.name) := by
  have hkept := fun hbefore : w.bound.get? name = some c =>
    h.enlisted_kept h' he hgone hbefore hc
  cases he with
  | nothing hx hw => exact hkept (by rw [hw] at hc; exact hc)
  | installs es name' entries order hw =>
    have hes := h.coherent.calm (.events w es)
    obtain ⟨-, hbound⟩ := run_install s name' entries order { w with events := es }
    have hplugins := hes.plugins_install name' entries order
    rw [← hw] at hbound hplugins
    rw [hbound, Table.get?_insert] at hc
    split at hc
    · cases hc
      rw [hplugins]
      refine Bridge.registrations_offers ?_
      refine (ownedBy_withdrawn (fun p hp hid => ?_) w.plugins).trans
        (h.unborn ⟨w.nextId⟩ (Nat.le_refl _))
      have hborn := h.born p.id (h.mine_of_bound hp)
      rw [← hid] at hborn
      exact Nat.lt_irrefl _ hborn
    · exact hkept hc
  | removes name' hname hw =>
    obtain ⟨-, -, hbound, -⟩ := run_remove name' w
    rw [← hw] at hbound
    rw [hbound, Table.get?_erase] at hc
    split at hc
    · cases hc
    · exact hkept hc

/-- **A call leaves everything settled.** -/
theorem call (h : Settled s mine w) (c : Call) :
    let w' := ((c.program s).run w).2
    Settled s (fun id => mine id ∨ w.Taken w' id) w' := by
  intro w'
  obtain ⟨-, heffect⟩ := call_means s c w
  obtain ⟨-, g, rfl, h', haccounted⟩ := (Accounted.upholds s _).alone
    (fun hi ha => hi.1.free ha) (restores_program c) ⟨h.coherent, h.accounted⟩
  have hgone : w'.gone = w.gone := Program.gone_run (c.program s) w
  have hnext : w.nextId ≤ w'.nextId := Program.nextId_le_run (c.program s) w
  have hours := ours_taken mine hnext
  refine ⟨by rw [hours]; exact h', by rw [hours]; exact haccounted, ?_, fun id hid => ?_,
    fun name c hc => h.enlisted_call h' heffect hgone hc⟩
  · rintro id (hm | ht)
    · exact Nat.lt_of_lt_of_le (h.born id hm) hnext
    · exact ht.2
  · have hbefore := Nat.le_trans hnext hid
    refine (h.coherent.ownedBy_call heffect (fun ht => Nat.not_le.2 ht.2 hid)
      fun name₁ c₁ hc₁ hid₁ => ?_).trans (h.unborn id hbefore)
    have hborn := h.born c₁.id (h.mine_of_bound hc₁)
    rw [hid₁] at hborn
    exact absurd hborn (Nat.not_lt.2 hbefore)

end Settled

/-! ## Whole histories -/

/-- Calls on a registry, and what others do in between; `mine` are the identities that the calls
took. -/
inductive History (s : RegistrySettings) (w₀ : World Directory) :
    (ContextId → Prop) → World Directory → Prop
  | start : History s w₀ (fun _ => False) w₀
  | call {mine : ContextId → Prop} {w : World Directory} (h : History s w₀ mine w) (c : Call) :
      History s w₀ (fun id => mine id ∨ w.Taken ((c.program s).run w).2 id)
        ((c.program s).run w).2
  | others {mine : ContextId → Prop} {w w' : World Directory} (h : History s w₀ mine w)
      (hu : Undisturbed s mine w w') : History s w₀ mine w'

theorem History.settled {w₀ : World Directory} (h : History s w₀ mine w) (hw : w₀.Fresh)
    (hnone : ∀ id, w₀.nextId ≤ id.number → w₀.plugins.ownedBy id = []) : Settled s mine w := by
  induction h with
  | start => exact .of_fresh s hw hnone
  | call h c ih => exact ih.call c
  | others h hu ih => exact ih.others hu

/-- **Plugins follow their context.**  Whatever calls a registry gets, and whatever others do in
between under identities of their own: what a bound context has in the directory are, in the order
of their handles and under its name, the plugins that its look-ups say it should have; a context of
the registry that is bound no more has none; and the next call, which need not wait, leaves the
entries of all other owners as they are. -/
theorem plugins_wanted (s : RegistrySettings) {w₀ w : World Directory} (hw : w₀.Fresh)
    (hnone : ∀ id, w₀.nextId ≤ id.number → w₀.plugins.ownedBy id = [])
    (h : History s w₀ mine w) :
    (∀ name c, w.bound.get? name = some c →
      (w.plugins.ownedBy c.id).Pairwise (fun e e' => e.handle < e'.handle) ∧
      ∀ active, (w.plugins.ownedBy c.id).map (·.registration) =
        (Bridge.wanted s.bridge active c w).map fun p => ⟨p.1, p.2, c.id, name⟩) ∧
    (∀ id, mine id → (∀ name c, w.bound.get? name = some c → c.id ≠ id) →
      w.plugins.ownedBy id = []) ∧
    ∀ c : Call,
      let r := (c.program s).run w
      (c.program s).advance w = (.done r.1, r.2) ∧
      ∀ id, ¬ mine id → ¬ w.Taken r.2 id → r.2.plugins.ownedBy id = w.plugins.ownedBy id := by
  have hs := h.settled hw hnone
  refine ⟨fun name c hc => ⟨w.plugins.ownedBy_ordered c.id, fun active => ?_⟩,
    fun id hm hunbound => ?_, fun c => ?_⟩
  · have hname : c.name = name := by
      obtain ⟨-, id, entries, order, rfl⟩ := hs.coherent.bound name c hc
      rfl
    have hagree := hs.coherent.agree hs.coherent (fun _ _ => rfl) hc hc
    rw [← Bridge.wanted_congr hagree none active, ← hname]
    exact hs.enlisted name c hc
  · refine hs.accounted.cleared id (.inl hm) ?_
    refine (hs.coherent.retired id (.inl hm) (hs.born id hm) fun hid => ?_).1
    have hid' : id ∈ w.bound.values.map Context.id := hid
    obtain ⟨c, hvalue, hcid⟩ := List.mem_map.1 hid'
    obtain ⟨name, hc⟩ := (w.bound.mem_values_iff c).1 hvalue
    exact hunbound name c hc hcid
  · obtain ⟨hadvance, -⟩ := hs.coherent.restored (restores_program c)
    obtain ⟨-, heffect⟩ := call_means s c w
    refine ⟨hadvance, fun id hm ht => hs.coherent.ownedBy_call heffect ht fun name c' hc' hid => ?_⟩
    exact absurd (hid ▸ hs.mine_of_bound hc') hm

/-- The host lists two providers, of which the context that is added defines one. -/
theorem plugins_wanted_listed :
    let manifest : ArtifactKey := .data "META-INF/services/sql.Driver"
    let entry : Entry := .compress manifest (utf8 "app.Driver\nlib.Driver")
    let s : RegistrySettings :=
      { host := some ⟨⟨1⟩, "host", Table.insert ∅ manifest entry, .raw⟩ }
    let w₀ : World Directory := { World.initial ∅ with nextId := 2 }
    let add : Call := .addWithOrder "orders" [⟨"app.Driver", .code, [7]⟩] .childFirst
    (((add.program s).run w₀).2.plugins.ownedBy ⟨2⟩).map (·.registration) =
      [⟨"sql.Driver", "app.Driver", ⟨2⟩, "orders"⟩] := by
  intro manifest entry s w₀ add
  have hw : w₀.Fresh := ⟨rfl, rfl, fun _ _ => rfl⟩
  have hid : (((add.program s).run w₀).2.bound.get? "orders").map Context.id = some ⟨2⟩ := by
    decide +kernel
  have hwanted : (((add.program s).run w₀).2.bound.get? "orders").map
      (fun c => Bridge.wanted s.bridge none c ((add.program s).run w₀).2) =
      some [("sql.Driver", "app.Driver")] := by
    decide +kernel
  obtain ⟨c, hc, hcid⟩ := Option.map_eq_some_iff.1 hid
  obtain ⟨hplugins, -, -⟩ := plugins_wanted s hw (fun _ _ => rfl) (.call .start add)
  have hentries := (hplugins "orders" c hc).2 none
  rw [hc, Option.map_some, Option.some_inj] at hwanted
  rw [hwanted, hcid] at hentries
  exact hentries

end Registry

end Tenancy
