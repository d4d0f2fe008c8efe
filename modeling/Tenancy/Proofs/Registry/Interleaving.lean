import Tenancy.Proofs.Context.Lifecycle
import Tenancy.Proofs.Plugin.Directory
import Tenancy.Proofs.Registry.Calls

/-!
# Proofs/Registry/Interleaving — many threads, one registry, one driver directory

However the calls of any number of threads interleave, one action at a time,

* whatever a name is bound to is in use;
* once the plugin entries of a retired context have been removed it owns none, and never will;
* in the end the registry's contexts are bound and in use, or disposed of and own nothing.

What makes it work is that providers are registered from inside the context that owns them.  Before
its entries are listed a context is drained, so nobody is inside it any more
(`Registry.Accounted`).
-/

namespace Tenancy

open Plugin (Directory)

/-! ## Entries of an owner -/

/-- **Nothing is added for an owner** but by its own registrations. -/
theorem ownedBy_perform {w : World Directory} {a : Action} {c : ContextId}
    (h : ∀ r, a = .register r → r.owner ≠ c) {e : Plugin.Listing}
    (he : e ∈ (w.perform a).2.plugins.ownedBy c) : e ∈ w.plugins.ownedBy c := by
  cases a with
  | register r =>
    have he' : e ∈ (w.plugins.register r).2.ownedBy c := he
    rwa [Directory.ownedBy_register_ne _ (h r rfl)] at he'
  | deregister handle =>
    have he' : e ∈ (w.plugins.deregister handle).2.ownedBy c := he
    rw [Directory.ownedBy_deregister] at he'
    exact (List.mem_filter.1 he').1
  | _ => exact he

namespace Registry

variable {s : RegistrySettings} {mine : ContextId → Prop} {gs others : List Duty} {g : Duty}

variable {w : World Directory}

/-- **The entries of drained contexts are accounted for**: those of a context whose entries were
listed are still on the list, and one that is disposed of has none. -/
structure Accounted (mine : ContextId → Prop) (gs : List Duty) (w : World Directory) : Prop where
  listed : ∀ g ∈ gs, ∀ c left, g.charge = some (c, .listed left) →
    ∀ e ∈ w.plugins.ownedBy c, e.handle ∈ left
  cleared : ∀ id, mine id → (w.life id).state = .disposed → w.plugins.ownedBy id = []

namespace Accounted

theorem perm (hp : gs.Perm others) (h : Accounted mine gs w) : Accounted mine others w where
  listed g hg := h.listed g (hp.mem_iff.2 hg)
  cleared := h.cleared

/-- Nobody registers plugins for a drained context. -/
theorem registers_ne {a : Action} (hc : Coherent s mine (g :: others) w) (ha : g.allows s a)
    {id : ContextId} (hm : mine id) (hf : (w.life id).inFlight = 0) :
    ∀ r, a = .register r → r.owner ≠ id := by
  rintro r rfl rfl
  exact hc.not_inside hm hf ha

theorem charge_after_enter (g : Duty) (c : ContextId) (x : Bool) :
    (g.after (.enter c) x).charge = g.charge := by
  cases x <;> rfl

/-- The thread that took the step has its list in order. -/
theorem listed_after (hc : Coherent s mine (g :: others) w) (h : Accounted mine (g :: others) w)
    {a : Action} (ha : g.allows s a) {c : ContextId} {left : List Nat}
    (hcharge : (g.after a (w.perform a).1).charge = some (c, .listed left)) :
    ∀ e ∈ (w.perform a).2.plugins.ownedBy c, e.handle ∈ left := by
  -- an action that leaves the charge alone adds nothing for it
  have hsame : g.charge = some (c, .listed left) →
      ∀ e ∈ (w.perform a).2.plugins.ownedBy c, e.handle ∈ left := fun hg e he => by
    have hm := (hc.mine_of_mem (Duty.mem_charges hg)).1
    have hf := (hc.fits_head c _ hg).2
    exact h.listed g List.mem_cons_self c left hg e (ownedBy_perform (registers_ne hc ha hm hf) he)
  cases a with
  | allocate => cases hcharge
  | bind name b =>
    simp only [Duty.after, Duty.takes] at hcharge
    cases hp : (w.perform (.bind name b)).1 <;> rw [hp] at hcharge <;> cases hcharge
  | unbind name =>
    simp only [Duty.after, Duty.takes] at hcharge
    cases hp : (w.perform (.unbind name)).1 <;> rw [hp] at hcharge <;> cases hcharge
  | enter c' => rw [charge_after_enter] at hcharge; exact hsame hcharge
  | leave c' => exact hsame hcharge
  | beginClose c' => cases hcharge
  | awaitDrained c' => cases hcharge
  | finishClose c' => cases hcharge
  | deregister handle =>
    obtain ⟨c', left', hg⟩ := ha
    simp only [Duty.after, Duty.strikes, hg] at hcharge
    cases hcharge
    intro e he
    have he' : e ∈ (w.plugins.deregister handle).2.ownedBy c := he
    rw [Directory.ownedBy_deregister] at he'
    obtain ⟨he', hne⟩ := List.mem_filter.1 he'
    have hmem := h.listed g List.mem_cons_self c _ hg e he'
    exact (List.mem_cons.1 hmem).resolve_left (by simpa using hne)
  | entries =>
    simp only [Duty.after, Duty.lists] at hcharge
    split at hcharge
    · cases hcharge
      intro e he
      exact List.mem_map_of_mem he
    · exact hsame hcharge
  | _ => exact hsame hcharge

theorem step (hc : Coherent s mine (g :: others) w) (h : Accounted mine (g :: others) w)
    {a : Action} (ha : g.allows s a) :
    Accounted mine (g.after a (w.perform a).1 :: others) (w.perform a).2 where
  listed g₁ hg₁ c left hcharge := by
    rcases List.mem_cons.1 hg₁ with rfl | hg₁
    · exact h.listed_after hc ha hcharge
    · have hmem : g₁ ∈ g :: others := List.mem_cons_of_mem _ hg₁
      have hm := (hc.known c (mem_charges_of_mem hmem w (Duty.mem_charges hcharge))).1
      have hf := (hc.fits g₁ hmem c _ hcharge).2
      exact fun e he =>
        h.listed g₁ hmem c left hcharge e (ownedBy_perform (registers_ne hc ha hm hf) he)
  cleared id hm hd := by
    refine List.eq_nil_iff_forall_not_mem.2 fun e he => ?_
    by_cases hbefore : (w.life id).state = .disposed
    · have hf := hc.drained_of_disposed hm hbefore
      have he' := ownedBy_perform (registers_ne hc ha hm hf) he
      rw [h.cleared id hm hbefore] at he'
      cases he'
    · obtain rfl := (w.move_perform a id).eq_finishClose hbefore hd
      cases h.listed g List.mem_cons_self id [] ha e he

theorem upholds (s : RegistrySettings) (mine : ContextId → Prop) :
    (discipline s).Upholds fun gs w => Coherent s mine gs w ∧ Accounted mine gs w where
  perm hp h := ⟨h.1.perm hp, h.2.perm hp⟩
  step h ha he := by
    obtain ⟨hx, hc⟩ := h.1.step ha he
    exact ⟨hx, hc, h.2.step h.1 ha⟩

/-- At first no context is drained. -/
theorem of_fresh (hw : w.Fresh) (n : Nat) :
    Accounted (fun id => w.nextId ≤ id.number) (List.replicate n .idle) w where
  listed g hg c left hcharge := by
    obtain rfl := List.eq_of_mem_replicate hg
    cases hcharge
  cleared id hm hd := by
    rw [hw.unborn id hm] at hd
    cases hd

end Accounted

/-! ## After the clean-up -/

/-- A context that owns no plugins, and that nobody can enter to register any. -/
structure Cleared (c : ContextId) (w : World Directory) : Prop where
  shut : (w.life c).state ≠ .active
  drained : (w.life c).inFlight = 0
  empty : w.plugins.ownedBy c = []

namespace Cleared

variable {c : ContextId}

theorem step (hc : Coherent s mine (g :: others) w) (hm : mine c) (h : Cleared c w) {a : Action}
    (ha : g.allows s a) : Cleared c (w.perform a).2 where
  shut := by
    rw [ContextState.ne_active_iff]
    exact Nat.lt_of_lt_of_le ((ContextState.ne_active_iff _).1 h.shut) (w.age_le_perform a c)
  drained := (w.move_perform a c).drained h.shut h.drained
  empty := by
    refine List.eq_nil_iff_forall_not_mem.2 fun e he => ?_
    have he' := ownedBy_perform (Accounted.registers_ne hc ha hm h.drained) he
    rw [h.empty] at he'
    cases he'

/-- **What is cleared stays cleared**, whatever the threads do. -/
theorem upholds (s : RegistrySettings) (hm : mine c) :
    (discipline s).Upholds fun gs w => Coherent s mine gs w ∧ Cleared c w where
  perm hp h := ⟨h.1.perm hp, h.2⟩
  step h ha he := by
    obtain ⟨hx, hc⟩ := h.1.step ha he
    exact ⟨hx, hc, h.2.step h.1 hm ha⟩

end Cleared

/-! ## Runs of many threads -/

/-- **However the calls of several threads interleave**, whatever is bound is in use.  When the
clean-up after a context is over, and all that is left is to dispose of it, no plugin entry is owned
by it, nor will one ever be.  When all calls have returned, every context that the registry made is
either bound and in use, or bound to no name, disposed of, and owns no entry.  Until then some
thread can go on. -/
theorem threads_interleave (s : RegistrySettings) {w₀ : World Directory} (hw : w₀.Fresh)
    (threads : List (List Call)) {ps : List (Program (List (Except NamespaceError Bool)))}
    {w : World Directory}
    (hrun : Relation.ReflTransGen Program.Step (threads.map (callAll s), w₀) (ps, w)) :
    (∀ name c, w.bound.get? name = some c → (w.life c.id).state = .active) ∧
    (∀ c next, .act (.finishClose c) next ∈ ps →
      ∀ t, Relation.ReflTransGen Program.Step (ps, w) t → t.2.plugins.ownedBy c = []) ∧
    ((∀ p ∈ ps, p.isDone = true) →
      ∀ id : ContextId, w₀.nextId ≤ id.number → id.number < w.nextId →
        ((∃ name c, w.bound.get? name = some c ∧ c.id = id) ∧ (w.life id).state = .active) ∨
        ((∀ name c, w.bound.get? name = some c → c.id ≠ id) ∧
          (w.life id).state = .disposed ∧ w.plugins.ownedBy id = [])) ∧
    ((∃ p ∈ ps, p.isDone = false) → ∃ t, Program.Step (ps, w) t) := by
  obtain ⟨gs, hk, hc, ha⟩ := (Accounted.upholds s _).run hrun (keepsOn_callAll s threads)
    ⟨coherent_fresh s hw threads.length, .of_fresh hw threads.length⟩
  refine ⟨fun name c hname => (hc.bound name c hname).1, ?_, ?_, progress hc hk⟩
  · intro c next hp t ht
    obtain ⟨g, hg, hcharge, -⟩ := Discipline.exists_beside hk hp
    have hm := (hc.known c (mem_charges_of_mem hg w (Duty.mem_charges hcharge))).1
    obtain ⟨hshut, hdrained⟩ := hc.fits g hg c _ hcharge
    have hempty : w.plugins.ownedBy c = [] :=
      List.eq_nil_iff_forall_not_mem.2 fun e he => nomatch ha.listed g hg c [] hcharge e he
    obtain ⟨_, -, -, hcleared⟩ := (Cleared.upholds s hm).run ht hk
      ⟨hc, ⟨by rw [hshut]; decide, hdrained, hempty⟩⟩
    exact hcleared.empty
  · intro hdone id hm hn
    have hidle : charges gs w = w.bound.values.map Context.id := by
      rw [idle_of_done hk hdone, charges_idle]
    by_cases hid : id ∈ charges gs w
    · rw [hidle] at hid
      obtain ⟨c, hvalue, rfl⟩ := List.mem_map.1 hid
      obtain ⟨name, hname⟩ := (w.bound.mem_values_iff c).1 hvalue
      exact .inl ⟨⟨name, c, hname, rfl⟩, (hc.bound name c hname).1⟩
    · have hd := (hc.retired id hm hn hid).1
      exact .inr ⟨fun name c hname he => hid (he ▸ mem_charges_of_bound gs hname), hd,
        ha.cleared id hm hd⟩

/-- The host lists a driver. -/
def hostListing : RegistrySettings :=
  let manifest : ArtifactKey := .data "META-INF/services/sql.Driver"
  { host := some ⟨⟨1⟩, "host", .ofList [(manifest, .compress manifest (utf8 "app.Driver"))], .raw⟩ }

/-- One thread adds a namespace that has the driver, another removes it. -/
def addAndRemove : List (Program (List (Except NamespaceError Bool))) :=
  [[.addWithOrder "orders" [⟨"app.Driver", .code, [7]⟩] .childFirst], [.remove "orders"]].map
    (callAll hostListing)

/-- The driver is about to be registered, and the removal waits. -/
def driverPending : List (Program (List (Except NamespaceError Bool))) × World Directory :=
  (Program.schedule [(0, (· matches .register _)), (1, fun _ => false)]
    (addAndRemove, { World.initial ∅ with nextId := 2 })).2

/-- The driver is there. -/
def driverAdded : List (Program (List (Except NamespaceError Bool))) × World Directory :=
  (Program.schedule [(0, fun _ => false)] driverPending).2

/-- The removal has gone on. -/
def driverRemoved : List (Program (List (Except NamespaceError Bool))) × World Directory :=
  (Program.schedule [(1, fun _ => false)] driverAdded).2

/-- A namespace is removed while its driver is about to be registered: the removal waits, and finds
the driver. -/
theorem threads_interleave_removed :
    (driverPending.2.life ⟨2⟩).state = .shuttingDown ∧ (driverPending.2.life ⟨2⟩).inFlight = 1 ∧
      (∃ t, Program.Step (driverPending.1, driverPending.2) t) ∧
      (driverAdded.2.plugins.ownedBy ⟨2⟩).map (·.handle) = [1] ∧
      (driverRemoved.2.life ⟨2⟩).state = .disposed ∧ driverRemoved.2.plugins.ownedBy ⟨2⟩ = [] := by
  let w₀ : World Directory := { World.initial ∅ with nextId := 2 }
  have hw : w₀.Fresh := ⟨rfl, rfl, fun _ _ => rfl⟩
  have hpending := Program.steps_schedule driverPending rfl
  have hremoved := (hpending.trans (Program.steps_schedule driverAdded rfl)).trans
    (Program.steps_schedule driverRemoved rfl)
  obtain ⟨-, -, -, hprogress⟩ := threads_interleave hostListing hw _ hpending
  obtain ⟨-, -, hend, -⟩ := threads_interleave hostListing hw _ hremoved
  have hbusy : ∃ p ∈ driverPending.1, p.isDone = false := by decide +kernel
  have hdone : ∀ p ∈ driverRemoved.1, p.isDone = true := by decide +kernel
  have hnone : driverRemoved.2.bound.pairs.isEmpty = true := by decide +kernel
  have hnext : 2 < driverRemoved.2.nextId := by decide +kernel
  refine ⟨by decide +kernel, by decide +kernel, hprogress hbusy, by decide +kernel, ?_⟩
  rcases hend hdone ⟨2⟩ (Nat.le_refl 2) hnext with ⟨⟨name, c, hc, -⟩, -⟩ | ⟨-, h⟩
  · rw [Table.get?_eq_some_iff, List.isEmpty_iff.1 hnone] at hc
    cases hc
  · exact h

end Registry

end Tenancy
