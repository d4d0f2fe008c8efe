import Tenancy.Proofs.Registry.Duty
import Tenancy.Proofs.Table

/-!
# Proofs/Registry/Coherence — every context is somebody's charge

A context of the registry is at any time the charge of one thread that is about to bind or to retire
it, or of the name it is bound to, or of nobody; and of nobody only once it is disposed of.  This is
the invariant `Registry.Coherent`, kept up by every thread that keeps `Registry.discipline`
(`Registry.Coherent.upholds`).  With it go the counts of look-ups in flight: a context that has been
drained stays drained, since nobody can enter it any more.
-/

namespace Tenancy

/-- What the lifecycle of a context is while a thread has come so far with it. -/
def Stage.Fits : Stage → Lifecycle → Prop
  | .fresh, l => l.state = .active
  | .taken, l => l.state = .active
  | .closing, l => l.state = .shuttingDown
  | .drained, l => l.state = .shuttingDown ∧ l.inFlight = 0
  | .listed _, l => l.state = .shuttingDown ∧ l.inFlight = 0

/-- A thread relies on no more than states that stay and drained contexts that nobody enters. -/
theorem Stage.Fits.stay {stage : Stage} {l l' : Lifecycle} (h : stage.Fits l)
    (hstate : l'.state = l.state)
    (hdrained : l.state ≠ .active → l.inFlight = 0 → l'.inFlight = 0) : stage.Fits l' := by
  cases stage with
  | fresh => exact hstate.trans h
  | taken => exact hstate.trans h
  | closing => exact hstate.trans h
  | drained => exact ⟨hstate.trans h.1, hdrained (by rw [h.1]; decide) h.2⟩
  | listed left => exact ⟨hstate.trans h.1, hdrained (by rw [h.1]; decide) h.2⟩

namespace Duty

/-- The context that the thread alone is responsible for. -/
def charges (g : Duty) : List ContextId :=
  g.charge.toList.map (·.1)

theorem mem_charges {g : Duty} {id : ContextId} {stage : Stage} (h : g.charge = some (id, stage)) :
    id ∈ g.charges := by
  simp [charges, h]

theorem charges_takes (g : Duty) (previous : Option Context) :
    (g.takes previous).charges = previous.toList.map Context.id := by
  cases previous <;> rfl

/-- The context is as far as the thread believes. -/
def Fits {σ : Type} (g : Duty) (w : World σ) : Prop :=
  ∀ id stage, g.charge = some (id, stage) → stage.Fits (w.life id)

theorem charges_lists (g : Duty) (listed : List Plugin.Listing) :
    (g.lists listed).charges = g.charges ∧ (g.lists listed).inside = g.inside := by
  unfold lists
  split
  · rename_i c hc; rw [charges, charges, hc]; exact ⟨rfl, rfl⟩
  · exact ⟨rfl, rfl⟩

theorem charges_strikes (g : Duty) :
    g.strikes.charges = g.charges ∧ g.strikes.inside = g.inside := by
  unfold strikes
  split
  · rename_i c _ left hc; rw [charges, charges, hc]; exact ⟨rfl, rfl⟩
  · exact ⟨rfl, rfl⟩

variable {σ : Type} {g : Duty} {w : World σ}

/-- A list of entries, and what is struck off it, say nothing about the context. -/
theorem Fits.lists (h : g.Fits w) (listed : List Plugin.Listing) : (g.lists listed).Fits w := by
  unfold Duty.lists
  split
  · rename_i c hc
    rintro id stage ⟨⟩
    exact h c .drained hc
  · exact h

theorem Fits.strikes (h : g.Fits w) : g.strikes.Fits w := by
  unfold Duty.strikes
  split
  · rename_i c handle left hc
    rintro id stage ⟨⟩
    exact h c (.listed (handle :: left)) hc
  · exact h

end Duty

namespace Registry

variable {σ : Type}

/-- Every context that somebody is responsible for: a thread, or the name it is bound to. -/
def charges (gs : List Duty) (w : World σ) : List ContextId :=
  gs.flatMap Duty.charges ++ w.bound.values.map Context.id

/-- The contexts that threads are inside, once for every time they are. -/
def insiders (gs : List Duty) : List ContextId :=
  gs.flatMap Duty.inside

theorem charges_cons (g : Duty) (gs : List Duty) (w : World σ) :
    charges (g :: gs) w = g.charges ++ charges gs w := by
  simp [charges]

theorem charges_cons_some {g : Duty} {id : ContextId} {stage : Stage}
    (h : g.charge = some (id, stage)) (gs : List Duty) (w : World σ) :
    charges (g :: gs) w = id :: charges gs w := by
  rw [charges_cons, Duty.charges, h]
  rfl

theorem charges_cons_none {g : Duty} (h : g.charge = none) (gs : List Duty) (w : World σ) :
    charges (g :: gs) w = charges gs w := by
  rw [charges_cons, Duty.charges, h]
  rfl

theorem insiders_cons (g : Duty) (gs : List Duty) :
    insiders (g :: gs) = g.inside ++ insiders gs := by
  simp [insiders]

theorem mem_charges_of_mem {gs : List Duty} {g : Duty} (hg : g ∈ gs) (w : World σ)
    {id : ContextId} (hid : id ∈ g.charges) : id ∈ charges gs w :=
  List.mem_append_left _ (List.mem_flatMap.2 ⟨g, hg, hid⟩)

theorem mem_charges_of_bound (gs : List Duty) {w : World σ} {name : String} {c : Context}
    (h : w.bound.get? name = some c) : c.id ∈ charges gs w :=
  List.mem_append_right _ (List.mem_map_of_mem ((w.bound.mem_values_iff c).2 ⟨name, h⟩))

/-- **The registry's contexts are in order.**  `mine` are the identities that the registry has taken
or may yet take. -/
structure Coherent (s : RegistrySettings) (mine : ContextId → Prop) (gs : List Duty)
    (w : World σ) : Prop where
  ahead : ∀ id, w.nextId ≤ id.number → mine id
  unborn : ∀ id, w.nextId ≤ id.number → (w.life id).state = .active
  /-- Nobody's charge is another's. -/
  sole : (charges gs w).Nodup
  known : ∀ id ∈ charges gs w, mine id ∧ id.number < w.nextId
  retired : ∀ id, mine id → id.number < w.nextId → id ∉ charges gs w →
    (w.life id).state = .disposed ∧ (w.life id).inFlight = 0
  counted : ∀ id, mine id → (w.life id).inFlight = (insiders gs).count id
  fits : ∀ g ∈ gs, g.Fits w
  bound : ∀ name c, w.bound.get? name = some c →
    (w.life c.id).state = .active ∧ ∃ id entries order, c = contextOf s id name entries order
  default : w.defaultDefined = w.bound.contains defaultName

namespace Coherent

variable {s : RegistrySettings} {mine : ContextId → Prop} {gs others : List Duty} {g g' : Duty}
  {w w' : World σ}

theorem perm (hp : gs.Perm others) (h : Coherent s mine gs w) : Coherent s mine others w := by
  have hcharges : (charges gs w).Perm (charges others w) := (hp.flatMap_right _).append_right _
  have hinsiders : (insiders gs).Perm (insiders others) := hp.flatMap_right _
  exact {
    ahead := h.ahead
    unborn := h.unborn
    sole := hcharges.nodup h.sole
    known := fun id hid => h.known id (hcharges.mem_iff.2 hid)
    retired := fun id hm hn hid => h.retired id hm hn fun hid' => hid (hcharges.mem_iff.1 hid')
    counted := fun id hm => (h.counted id hm).trans (hinsiders.count_eq id)
    fits := fun g hg => h.fits g (hp.mem_iff.2 hg)
    bound := h.bound
    default := h.default }

/-- What a thread is responsible for is nobody else's. -/
theorem apart (h : Coherent s mine (g :: others) w) {id : ContextId} (hid : id ∈ g.charges) :
    id ∉ charges others w := by
  have hsole := h.sole
  rw [charges_cons] at hsole
  exact fun hid' => (List.nodup_append.1 hsole).2.2 id hid id hid' rfl

theorem fits_head (h : Coherent s mine (g :: others) w) : g.Fits w :=
  h.fits g List.mem_cons_self

theorem mine_of_mem (h : Coherent s mine (g :: others) w) {id : ContextId}
    (hid : id ∈ g.charges) : mine id ∧ id.number < w.nextId :=
  h.known id (by rw [charges_cons]; exact List.mem_append_left _ hid)

/-! ## Steps that leave states and charges alone -/

/-- **Charges and states stay as they are**; the count of those inside may change, but nobody enters
a context that has been drained. -/
theorem stay (h : Coherent s mine (g :: others) w) (hnext : w'.nextId = w.nextId)
    (hbound : w'.bound = w.bound) (hdefault : w'.defaultDefined = w.defaultDefined)
    (hstate : ∀ id, (w'.life id).state = (w.life id).state)
    (hdrained : ∀ id, mine id → (w.life id).state ≠ .active → (w.life id).inFlight = 0 →
      (w'.life id).inFlight = 0)
    (hcharges : g'.charges = g.charges) (hfits : g'.Fits w')
    (hcounted : ∀ id, mine id → (w'.life id).inFlight = (insiders (g' :: others)).count id) :
    Coherent s mine (g' :: others) w' := by
  have hsame : charges (g' :: others) w' = charges (g :: others) w := by
    rw [charges_cons, charges_cons, hcharges, charges, charges, hbound]
  refine {
    ahead := by rw [hnext]; exact h.ahead
    unborn := fun id hid => by rw [hstate]; exact h.unborn id (hnext ▸ hid)
    sole := by rw [hsame]; exact h.sole
    known := by rw [hsame, hnext]; exact h.known
    retired := fun id hm hn hid => ?_
    counted := hcounted
    fits := fun g₁ hg₁ => ?_
    bound := by rw [hbound]; exact fun name c hc => by rw [hstate]; exact h.bound name c hc
    default := by rw [hdefault, hbound]; exact h.default }
  · rw [hsame] at hid
    obtain ⟨hd, hf⟩ := h.retired id hm (hnext ▸ hn) hid
    exact ⟨(hstate id).trans hd, hdrained id hm (by rw [hd]; decide) hf⟩
  · rcases List.mem_cons.1 hg₁ with rfl | hg₁
    · exact hfits
    · intro id stage hid
      have hmem : id ∈ charges (g :: others) w :=
        mem_charges_of_mem (List.mem_cons_of_mem _ hg₁) w (Duty.mem_charges hid)
      exact (h.fits g₁ (List.mem_cons_of_mem _ hg₁) id stage hid).stay (hstate id)
        (hdrained id (h.known id hmem).1)

/-- The same where nobody enters or leaves. -/
theorem still (h : Coherent s mine (g :: others) w) (hnext : w'.nextId = w.nextId)
    (hbound : w'.bound = w.bound) (hdefault : w'.defaultDefined = w.defaultDefined)
    (hstate : ∀ id, (w'.life id).state = (w.life id).state)
    (hflight : ∀ id, (w'.life id).inFlight = (w.life id).inFlight)
    (hcharges : g'.charges = g.charges) (hfits : g'.Fits w) (hinside : g'.inside = g.inside) :
    Coherent s mine (g' :: others) w' := by
  refine h.stay hnext hbound hdefault hstate (fun id _ _ hf => (hflight id).trans hf) hcharges
    (fun id stage hid => (hfits id stage hid).stay (hstate id) fun _ hf => (hflight id).trans hf)
    fun id hm => ?_
  rw [hflight, h.counted id hm, insiders_cons, insiders_cons, hinside]

theorem calm (h : Coherent s mine (g :: others) w) (hw : w.Calm w') :
    Coherent s mine (g :: others) w' :=
  h.still hw.nextId hw.bound hw.defaultDefined hw.state hw.inFlight rfl h.fits_head rfl

theorem enter (h : Coherent s mine (g :: others) w) (c : ContextId) :
    Coherent s mine (g.after (.enter c) (w.life c).enter.1 :: others)
      (w.withLife c (w.life c).enter.2) := by
  unfold Lifecycle.enter
  split
  · rename_i hopen
    show Coherent s mine (g.enters c :: others) (w.entered c)
    have hdrained : ∀ id, (w.life id).state ≠ .active → (w.life id).inFlight = 0 →
        ((w.entered c).life id).inFlight = 0 := fun id hshut hf => by
      have hne : id ≠ c := fun hid => hshut (hid ▸ hopen)
      rw [World.inFlight_entered, if_neg hne, hf]
    refine h.stay rfl rfl rfl (w.state_entered c) (fun id _ => hdrained id) rfl
      (fun id stage hid => (h.fits_head id stage hid).stay (w.state_entered c id) (hdrained id))
      fun id hm => ?_
    have hcount := h.counted id hm
    rw [insiders_cons] at hcount ⊢
    rw [World.inFlight_entered, hcount, Duty.enters, List.cons_append, List.count_cons]
    split
    · rename_i hid; rw [hid, if_pos (beq_self_eq_true c)]
    · rename_i hid; rw [if_neg (by simpa using Ne.symm hid)]
  · exact h.calm (.withLife rfl rfl)

theorem leave (h : Coherent s mine (g :: others) w) {c : ContextId} (hc : c ∈ g.inside) :
    Coherent s mine ({ g with inside := g.inside.erase c } :: others)
      (w.withLife c (w.life c).leave) := by
  have hstate : ∀ id, ((w.withLife c (w.life c).leave).life id).state = (w.life id).state :=
    fun id => by
      rw [World.life_withLife]
      split
      · rename_i hid; rw [hid]; rfl
      · rfl
  have hflight : ∀ id, ((w.withLife c (w.life c).leave).life id).inFlight =
      (w.life id).inFlight - if id = c then 1 else 0 := fun id => by
    rw [World.life_withLife]
    split
    · rename_i hid; rw [hid]; rfl
    · rfl
  have hdrained : ∀ id, (w.life id).state ≠ .active → (w.life id).inFlight = 0 →
      ((w.withLife c (w.life c).leave).life id).inFlight = 0 := fun id _ hf => by
    rw [hflight, hf, Nat.zero_sub]
  refine h.stay rfl rfl rfl hstate (fun id _ => hdrained id) rfl
    (fun id stage hid => (h.fits_head id stage hid).stay (hstate id) (hdrained id)) fun id hm => ?_
  have hcount := h.counted id hm
  rw [insiders_cons, List.count_append] at hcount ⊢
  rw [hflight, hcount, List.count_erase]
  split
  · rename_i hid
    have hpos := List.count_pos_iff.2 hc
    subst hid
    simp only [beq_self_eq_true, if_true]
    omega
  · rename_i hid
    simp [Ne.symm hid]

/-! ## Retiring -/

/-- **A context goes on to the next stage in the hands of one thread**, or, disposed of, out of
them; nobody else relies on its state. -/
theorem advance (h : Coherent s mine (g :: others) w) {c : ContextId} {stage : Stage}
    (hc : g.charge = some (c, stage)) (l : Lifecycle) (hflight : l.inFlight = (w.life c).inFlight)
    (next : Option Stage) (hfits : ∀ stage', next = some stage' → stage'.Fits l)
    (hleft : next = none → l.state = .disposed ∧ l.inFlight = 0) :
    Coherent s mine ({ g with charge := next.map fun stage' => (c, stage') } :: others)
      (w.withLife c l) := by
  have hmem : c ∈ g.charges := Duty.mem_charges hc
  have hg := charges_cons_some hc others w
  have hg' : charges ({ g with charge := next.map fun stage' => (c, stage') } :: others)
      (w.withLife c l) = (next.map fun _ => c).toList ++ charges others w := by
    rw [charges_cons, Duty.charges]
    cases next <;> rfl
  have hapart := h.apart hmem
  have hmine := h.mine_of_mem hmem
  have hne : ∀ id ∈ charges others w, id ≠ c := fun id hid he => hapart (he ▸ hid)
  have hsole := h.sole
  rw [hg] at hsole
  refine {
    ahead := h.ahead
    unborn := fun id hid => ?_
    sole := ?_
    known := fun id hid => ?_
    retired := fun id hm hn hid => ?_
    counted := fun id hm => ?_
    fits := fun g₁ hg₁ => ?_
    bound := fun name c' hc' => ?_
    default := h.default }
  · have hid' : id ≠ c := fun he => absurd (he ▸ hid) (Nat.not_le.2 hmine.2)
    rw [World.life_withLife, if_neg hid']
    exact h.unborn id hid
  · rw [hg']
    cases next with
    | none => exact (List.nodup_cons.1 hsole).2
    | some _ => exact hsole
  · rw [hg'] at hid
    refine h.known id ?_
    rw [hg]
    cases next with
    | none => exact List.mem_cons_of_mem _ hid
    | some _ => exact hid
  · rw [hg'] at hid
    rw [World.life_withLife]
    split
    · rename_i he
      cases next with
      | none => exact hleft rfl
      | some _ => exact absurd (he ▸ List.mem_cons_self) hid
    · rename_i he
      refine h.retired id hm hn ?_
      rw [hg]
      exact fun hid' => hid (List.mem_append_right _ ((List.mem_cons.1 hid').resolve_left he))
  · have hsame : ((w.withLife c l).life id).inFlight = (w.life id).inFlight := by
      rw [World.life_withLife]
      split
      · rename_i he; rw [he, hflight]
      · rfl
    rw [hsame, h.counted id hm, insiders_cons, insiders_cons]
  · rcases List.mem_cons.1 hg₁ with rfl | hg₁
    · intro id stage' hid
      cases next with
      | none => cases hid
      | some _ =>
        cases hid
        rw [World.life_withLife_self]
        exact hfits _ rfl
    · intro id stage' hid
      have hid' := hne id (mem_charges_of_mem hg₁ w (Duty.mem_charges hid))
      rw [World.life_withLife_ne w l hid']
      exact h.fits g₁ (List.mem_cons_of_mem _ hg₁) id stage' hid
  · have hid := hne c'.id (mem_charges_of_bound others hc')
    rw [World.life_withLife, if_neg hid]
    exact h.bound name c' hc'

theorem beginClose (h : Coherent s mine (g :: others) w) {c : ContextId}
    (hc : g.charge = some (c, .taken)) :
    (w.life c).beginClose.1.isSome ∧
      Coherent s mine ({ g with charge := some (c, .closing) } :: others)
        (w.withLife c (w.life c).beginClose.2) := by
  have hopen : (w.life c).state = .active := h.fits_head c .taken hc
  have hclose : (w.life c).beginClose =
      (some (w.life c).inFlight, { w.life c with state := .shuttingDown }) := if_pos hopen
  rw [hclose]
  exact ⟨rfl, h.advance hc { w.life c with state := .shuttingDown } rfl (some .closing)
    (fun _ he => by cases he; rfl) nofun⟩

theorem finishClose (h : Coherent s mine (g :: others) w) {c : ContextId}
    (hc : g.charge = some (c, .listed [])) :
    Coherent s mine ({ g with charge := none } :: others)
      (w.withLife c (w.life c).finishClose.2) :=
  h.advance hc (w.life c).finishClose.2 rfl none nofun fun _ => ⟨rfl, (h.fits_head c _ hc).2⟩

/-! ## Names -/

theorem allocate (h : Coherent s mine (g :: others) w) (hc : g.charge = none) :
    Coherent s mine ({ g with charge := some (⟨w.nextId⟩, .fresh) } :: others)
      { w with nextId := w.nextId + 1 } := by
  have hg := charges_cons_none hc others w
  have hg' : charges ({ g with charge := some (⟨w.nextId⟩, .fresh) } :: others)
      { w with nextId := w.nextId + 1 } = ⟨w.nextId⟩ :: charges others w :=
    charges_cons_some rfl others _
  have hsole := h.sole
  have hknown := h.known
  rw [hg] at hsole hknown
  refine {
    ahead := fun id hid => h.ahead id (Nat.le_of_succ_le hid)
    unborn := fun id hid => h.unborn id (Nat.le_of_succ_le hid)
    sole := ?_
    known := fun id hid => ?_
    retired := fun id hm hn hid => ?_
    counted := fun id hm => (h.counted id hm).trans (by rw [insiders_cons, insiders_cons])
    fits := fun g₁ hg₁ => ?_
    bound := h.bound
    default := h.default }
  · rw [hg']
    exact List.nodup_cons.2 ⟨fun hid => absurd (hknown _ hid).2 (Nat.lt_irrefl _), hsole⟩
  · rw [hg'] at hid
    rcases List.mem_cons.1 hid with rfl | hid
    · exact ⟨h.ahead _ (Nat.le_refl _), Nat.lt_succ_self _⟩
    · exact ⟨(hknown id hid).1, Nat.lt_succ_of_lt (hknown id hid).2⟩
  · rw [hg', List.mem_cons, not_or] at hid
    have hn' : id.number < w.nextId :=
      Nat.lt_of_le_of_ne (Nat.le_of_lt_succ hn) fun he => hid.1 (congrArg ContextId.mk he)
    exact h.retired id hm hn' (by rw [hg]; exact hid.2)
  · rcases List.mem_cons.1 hg₁ with rfl | hg₁
    · intro id stage hid
      cases hid
      exact h.unborn _ (Nat.le_refl _)
    · exact h.fits g₁ (List.mem_cons_of_mem _ hg₁)

/-- **Charges change hands**, and everything else stays. -/
theorem handOver (h : Coherent s mine (g :: others) w) {w' : World σ}
    (hnext : w'.nextId = w.nextId) (hlife : ∀ id, w'.life id = w.life id)
    (hperm : (charges (g' :: others) w').Perm (charges (g :: others) w))
    (hinside : g'.inside = g.inside) (hfits : g'.Fits w)
    (hbound : ∀ name c, w'.bound.get? name = some c →
      (w.life c.id).state = .active ∧ ∃ id entries order, c = contextOf s id name entries order)
    (hdefault : w'.defaultDefined = w'.bound.contains defaultName) :
    Coherent s mine (g' :: others) w' where
  ahead := hnext ▸ h.ahead
  unborn id hid := by rw [hlife]; exact h.unborn id (hnext ▸ hid)
  sole := hperm.symm.nodup h.sole
  known id hid := by rw [hnext]; exact h.known id (hperm.mem_iff.1 hid)
  retired id hm hn hid := by
    rw [hlife]
    exact h.retired id hm (hnext ▸ hn) fun hid' => hid (hperm.mem_iff.2 hid')
  counted id hm := by rw [hlife, h.counted id hm, insiders_cons, insiders_cons, hinside]
  fits g₁ hg₁ id stage hid := by
    rw [hlife]
    rcases List.mem_cons.1 hg₁ with rfl | hg₁
    · exact hfits id stage hid
    · exact h.fits g₁ (List.mem_cons_of_mem _ hg₁) id stage hid
  bound name c hc := by rw [hlife]; exact hbound name c hc
  default := hdefault

/-- Whoever takes a bound context finds it in use. -/
theorem takes_fits (h : Coherent s mine (g :: others) w) (name : String) :
    (g.takes (w.bound.get? name)).Fits w := by
  intro id stage hid
  cases hp : w.bound.get? name with
  | none => rw [hp] at hid; cases hid
  | some p =>
    rw [hp] at hid
    cases hid
    exact (h.bound name p hp).1

theorem bind (h : Coherent s mine (g :: others) w) (name : String) {id : ContextId}
    (hc : g.charge = some (id, .fresh)) (entries : ArtifactMap) (order : ResolutionOrder) :
    Coherent s mine (g.takes (w.bound.get? name) :: others)
      { w with
        bound := w.bound.insert name (contextOf s id name entries order)
        defaultDefined := if name = defaultName then true else w.defaultDefined } := by
  refine h.handOver rfl (fun _ => rfl) ?_ rfl (h.takes_fits name) (fun name' c' hc' => ?_) ?_
  · have hg : g.charges = [id] := by rw [Duty.charges, hc]; rfl
    have hbefore := (w.bound.values_erase name).map Context.id
    have hafter : ((w.bound.insert name (contextOf s id name entries order)).values.map
        Context.id).Perm (id :: (w.bound.erase name).values.map Context.id) :=
      (w.bound.values_insert name (contextOf s id name entries order)).map Context.id
    rw [charges_cons, charges_cons, charges, charges, Duty.charges_takes, hg]
    refine List.perm_iff_count.2 fun a => ?_
    have hcount := hbefore.count_eq a
    have hcount' := hafter.count_eq a
    simp only [List.map_append, List.count_append, List.count_cons, List.count_nil]
      at hcount hcount' ⊢
    omega
  · rw [Table.get?_insert] at hc'
    split at hc'
    · rename_i hname
      cases hc'
      exact ⟨h.fits_head id .fresh hc, id, entries, order, by rw [hname]⟩
    · exact h.bound name' c' hc'
  · simp only [Table.contains, Table.get?_insert]
    split
    · rename_i hname; rw [if_pos hname.symm]; rfl
    · rename_i hname; rw [if_neg (Ne.symm hname)]; exact h.default

theorem unbind (h : Coherent s mine (g :: others) w) (name : String) (hc : g.charge = none) :
    Coherent s mine (g.takes (w.bound.get? name) :: others)
      { w with
        bound := w.bound.erase name
        defaultDefined := if name = defaultName && (w.bound.get? name).isSome then false
          else w.defaultDefined } := by
  refine h.handOver rfl (fun _ => rfl) ?_ rfl (h.takes_fits name) (fun name' c' hc' => ?_) ?_
  · have hg : g.charges = [] := by rw [Duty.charges, hc]; rfl
    have hbefore := (w.bound.values_erase name).map Context.id
    rw [charges_cons, charges_cons, charges, charges, Duty.charges_takes, hg]
    refine List.perm_iff_count.2 fun a => ?_
    have hcount := hbefore.count_eq a
    simp only [List.map_append, List.count_append, List.count_nil] at hcount ⊢
    omega
  · rw [Table.get?_erase] at hc'
    split at hc'
    · cases hc'
    · exact h.bound name' c' hc'
  · rw [Table.contains, Table.get?_erase]
    have hdefault := h.default
    rw [Table.contains] at hdefault
    by_cases hname : name = defaultName
    · subst hname
      cases hp : w.bound.get? defaultName with
      | none => simp [hp, hdefault]
      | some p => simp
    · simp [hname, Ne.symm hname, hdefault]

/-! ## What the order tells -/

/-- What is bound to a name is called so. -/
theorem name_of_bound (h : Coherent s mine gs w) {name : String} {c : Context}
    (hc : w.bound.get? name = some c) : c.name = name := by
  obtain ⟨-, id, entries, order, rfl⟩ := h.bound name c hc
  rfl

/-- What is somebody's charge is not disposed of. -/
theorem state_of_charged (h : Coherent s mine gs w) {id : ContextId} (hid : id ∈ charges gs w) :
    (w.life id).state ≠ .disposed := by
  rcases List.mem_append.1 hid with hid | hid
  · obtain ⟨g, hg, hid⟩ := List.mem_flatMap.1 hid
    obtain ⟨⟨id', stage⟩, hc, rfl⟩ := List.mem_map.1 hid
    have hfits := h.fits g hg id' stage (Option.mem_toList.1 hc)
    cases stage with
    | fresh => rw [show (w.life id').state = .active from hfits]; decide
    | taken => rw [show (w.life id').state = .active from hfits]; decide
    | closing => rw [show (w.life id').state = .shuttingDown from hfits]; decide
    | drained => rw [hfits.1]; decide
    | listed left => rw [hfits.1]; decide
  · obtain ⟨c, hc, rfl⟩ := List.mem_map.1 hid
    obtain ⟨name, hname⟩ := (w.bound.mem_values_iff c).1 hc
    rw [(h.bound name c hname).1]
    decide

/-- What is disposed of is drained. -/
theorem drained_of_disposed (h : Coherent s mine gs w) {id : ContextId} (hm : mine id)
    (hd : (w.life id).state = .disposed) : (w.life id).inFlight = 0 := by
  have hborn : id.number < w.nextId := Nat.lt_of_not_le fun hle => by
    rw [h.unborn id hle] at hd
    cases hd
  exact (h.retired id hm hborn fun hid => h.state_of_charged hid hd).2

/-- Nobody is inside a drained context. -/
theorem not_inside (h : Coherent s mine (g :: others) w) {id : ContextId} (hm : mine id)
    (hf : (w.life id).inFlight = 0) : id ∉ g.inside := by
  have hcount := h.counted id hm
  rw [hf, insiders_cons] at hcount
  exact fun hid => List.count_eq_zero.1 hcount.symm (List.mem_append_left _ hid)

/-! ## Every step -/

/-- A thread that is alone never waits: whoever it waits for would be itself. -/
theorem free {a : Action} (h : Coherent s mine [g] w) (ha : g.allows s a) : w.Enabled a := by
  cases a with
  | awaitDrained c =>
    obtain ⟨hc, hinside⟩ := ha
    have hcount := h.counted c (h.mine_of_mem (Duty.mem_charges hc)).1
    rw [insiders_cons, hinside] at hcount
    exact hcount
  | _ => exact trivial

variable [Plugin.Backend σ]

/-- **No step of a thread that keeps the discipline breaks the order.** -/
theorem step {a : Action} (h : Coherent s mine (g :: others) w) (ha : g.allows s a)
    (he : w.Enabled a) :
    Duty.expects g a (w.perform a).1 ∧
      Coherent s mine (g.after a (w.perform a).1 :: others) (w.perform a).2 := by
  cases a with
  | allocate => exact ⟨trivial, h.allocate ha⟩
  | bind name c =>
    obtain ⟨id, entries, order, hc, rfl⟩ := ha
    exact ⟨trivial, h.bind name hc entries order⟩
  | unbind name => exact ⟨trivial, h.unbind name ha⟩
  | boundTo name => exact ⟨trivial, h⟩
  | boundCount => exact ⟨trivial, h⟩
  | enter c => exact ⟨trivial, h.enter c⟩
  | leave c => exact ⟨trivial, h.leave ha⟩
  | refuse c => exact ⟨trivial, h.calm (.withLife rfl rfl)⟩
  | beginClose c => exact h.beginClose ha
  | awaitDrained c =>
    obtain ⟨hc, -⟩ := ha
    refine ⟨trivial, h.still rfl rfl rfl (fun _ => rfl) (fun _ => rfl) ?_ ?_ rfl⟩
    · rw [Duty.charges, Duty.charges, hc]; rfl
    · rintro id stage ⟨⟩
      exact ⟨h.fits_head c .closing hc, he⟩
  | finishClose c => exact ⟨trivial, h.finishClose ha⟩
  | isHeld c => exact ⟨trivial, h⟩
  | register r =>
    exact ⟨trivial, h.still rfl rfl rfl (fun _ => rfl) (fun _ => rfl) rfl h.fits_head rfl⟩
  | deregister handle =>
    exact ⟨trivial, h.still rfl rfl rfl (fun _ => rfl) (fun _ => rfl) g.charges_strikes.1
      h.fits_head.strikes g.charges_strikes.2⟩
  | entries =>
    exact ⟨trivial, h.still rfl rfl rfl (fun _ => rfl) (fun _ => rfl) (g.charges_lists _).1
      (h.fits_head.lists _) (g.charges_lists _).2⟩
  | report e => exact ⟨trivial, h.calm (.events w _)⟩

theorem upholds (s : RegistrySettings) (mine : ContextId → Prop) :
    (discipline s).Upholds (Coherent s mine (σ := σ)) where
  perm := perm
  step := step

end Coherent

end Registry

end Tenancy
