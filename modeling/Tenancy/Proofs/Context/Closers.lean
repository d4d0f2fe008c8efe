import Tenancy.Proofs.Context.Retirement
import Tenancy.Proofs.Plugin.Directory

/-!
# Proofs/Context/Closers — who closes a context after the first

    the first closer   begins  ——nobody is inside any more——→  goes on
    every other one    finds the context closed  —————————————→  goes on

To go on is to clean up, if it is the registry that closes the context, and to dispose of it.
Behind the first closer nobody is inside, nor registers plugins any more.  Behind any other one
somebody may be, as long as the first one waits, and that is the only way to be inside a context
that is disposed of (`Use.inside_closed`).  The bridge can be there too: then the clean-up misses
what it registers (`Use.enlisted_late`).
-/

namespace Tenancy

variable {σ : Type} {gs others : List Visit} {g : Visit} {w₀ w : World σ} {c : ContextId}
  {ds : List Deed} {ms : List Mark}

/-- **Some closer has got past the beginning**: the first one has waited, or another one need not
wait. -/
def IsPassed (ms : List Mark) : Prop :=
  .drained ∈ ms ∨ .foundShut ∈ ms

theorem IsPassed.append (h : IsPassed ms) (ms' : List Mark) : IsPassed (ms ++ ms') :=
  h.imp (List.mem_append_left ms') (List.mem_append_left ms')

theorem IsPassed.of_mark {m : Option Mark} (h : m = some .drained ∨ m = some .foundShut)
    (ms : List Mark) : IsPassed (ms ++ m.toList) :=
  h.imp (fun hm => List.mem_append_right ms (Option.mem_toList.2 hm))
    fun hm => List.mem_append_right ms (Option.mem_toList.2 hm)

/-- A thread that has shut a context waits for it, or has got past the beginning, or does so now. -/
theorem Visit.passes_after {a : Action} {x : a.Answer} (ha : g.allows a)
    (hg : c ∈ g.shut → g.waits = some c ∨ IsPassed ms) (hc : c ∈ (g.after a x).shut) :
    (g.after a x).waits = some c ∨ IsPassed (ms ++ (Deed.mark? c ⟨a, x⟩).toList) := by
  -- whoever begins to close another context does not wait for this one
  have hfree : g.waits = none → c ∈ g.shut → IsPassed (ms ++ (Deed.mark? c ⟨a, x⟩).toList) :=
    fun hnone hc => ((hg hc).resolve_left (hnone ▸ nofun)).append _
  cases a with
  | enter c' => cases x <;> exact (hg hc).imp_right (·.append _)
  | beginClose c' =>
    cases x with
    | none =>
      rcases List.mem_cons.1 hc with rfl | hc
      · exact .inr (.of_mark (.inr (if_pos rfl)) ms)
      · exact .inr (hfree ha hc)
    | some n =>
      rcases List.mem_cons.1 hc with rfl | hc
      · exact .inl rfl
      · exact .inr (hfree ha hc)
  | awaitDrained c' =>
    rcases hg hc with hwaits | hpassed
    · obtain rfl := Option.some.inj (hwaits.symm.trans ha)
      exact .inr (.of_mark (.inl (if_pos rfl)) ms)
    · exact .inr (hpassed.append _)
  | _ => exact (hg hc).imp_right (·.append _)

/-- **Nobody goes on before getting past the beginning**, and so nobody disposes of a context
before that. -/
structure Closers (w₀ : World σ) (ds : List Deed) (gs : List Visit) (w : World σ) : Prop where
  shut : ∀ g ∈ gs, ∀ c ∈ g.shut, g.waits = some c ∨ IsPassed (marks c ds)
  disposed : ∀ c, (w.life c).state = .disposed →
    (w₀.life c).state = .disposed ∨ IsPassed (marks c ds)

namespace Closers

theorem perm (hp : gs.Perm others) (h : Closers w₀ ds gs w) : Closers w₀ ds others w where
  shut g hg := h.shut g (hp.mem_iff.2 hg)
  disposed := h.disposed

theorem of_rest (hgs : ∀ g ∈ gs, g = {}) : Closers w₀ [] gs w₀ where
  shut g hg c hc := by
    obtain rfl := hgs g hg
    cases hc
  disposed _ := .inl

theorem step [Plugin.Backend σ] (h : Closers w₀ ds (g :: others) w) {a : Action}
    (ha : g.allows a) (he : w.Enabled a) :
    Closers w₀ (ds ++ [⟨a, (w.perform a).1⟩]) (g.after a (w.perform a).1 :: others)
      (w.perform a).2 where
  shut g' hg' c hc := by
    rw [marks_concat]
    rcases List.mem_cons.1 hg' with rfl | hg'
    · exact Visit.passes_after ha (h.shut g List.mem_cons_self c) hc
    · exact (h.shut g' (List.mem_cons_of_mem _ hg') c hc).imp_right (·.append _)
  disposed c hd := by
    rw [marks_concat]
    rcases (w.turn_perform he c).disposed hd with hd | hm
    · exact (h.disposed c hd).imp_right (·.append _)
    · obtain ⟨hc, hnone⟩ := Visit.shut_of_finished ha hm
      have hpassed := (h.shut g List.mem_cons_self c hc).resolve_left (hnone ▸ nofun)
      exact .inr (hpassed.append _)

end Closers

/-- Nobody registers plugins for a context that nobody is inside. -/
theorem Attended.register_ne {gone : List ContextId} (h : Attended gone (g :: others) w)
    {r : Plugin.Registration} (ha : g.allows (.register r)) (hf : (w.life c).inFlight = 0) :
    r.owner ≠ c := by
  rintro rfl
  have hpos := h.inFlight_pos ha
  omega

namespace Use

variable [Plugin.Backend σ] {t t' : List (Program Reply) × World σ} {ds' : List Deed}
  {uses : List Use}

/-- What the threads have noted at any point of a run. -/
theorem runs_closers (hw : ∀ c, (w₀.life c).inFlight = 0)
    (hr : Program.Runs (uses.map program, w₀) ds t) :
    ∃ ks, (visiting (Attended.heldBy w₀.gone)).Kept t.1 ks ∧
      Attended w₀.gone (ks.map Keeper.note) t.2 ∧ Closers w₀ ds (ks.map Keeper.note) t.2 := by
  have hrecords := (Attended.upholds (σ := σ) w₀.gone).records
    (J := fun ds gs w => Closers w₀ ds gs w) (fun hp hj => hj.perm hp)
    fun hj _ ha he => hj.step ha he
  obtain ⟨ks, hk, -, hi⟩ := hrecords.runs hr (kept_programs w₀.gone uses)
    ⟨.of_rest hw fun _ => note_of_keeper, .of_rest fun _ => note_of_keeper⟩
  exact ⟨ks, hk, hi⟩

/-- A closed context that nobody is inside stays so, and nobody registers plugins for it. -/
theorem runs_empty {gone : List ContextId} {ks : List (Keeper Visit Reply)}
    (hk : (visiting (Attended.heldBy gone)).Kept t.1 ks)
    (ha : Attended gone (ks.map Keeper.note) t.2) (hs : (t.2.life c).state ≠ .active)
    (hf : (t.2.life c).inFlight = 0) (hr : Program.Runs t ds t') :
    (t'.2.life c).inFlight = 0 ∧ ∀ r x, (⟨.register r, x⟩ : Deed) ∈ ds → r.owner ≠ c := by
  obtain ⟨-, -, -, -, hend, hregister⟩ := (Attended.upholds gone).runs
    (J := fun ds w => ((w.life c).state ≠ .active ∧ (w.life c).inFlight = 0) ∧
      ∀ r x, (⟨.register r, x⟩ : Deed) ∈ ds → r.owner ≠ c)
    (fun {ds g others w a} hj hi ha he => by
      have hturn := w.turn_perform he c
      refine ⟨⟨hturn.ne_active hj.1.1, hturn.inFlight_eq_zero hj.1.1 hj.1.2⟩, fun r x hmem => ?_⟩
      rcases List.mem_append.1 hmem with hmem | hmem
      · exact hj.2 r x hmem
      · cases List.mem_singleton.1 hmem
        exact hi.register_ne ha hj.1.2)
    hr hk ha ⟨⟨hs, hf⟩, nofun⟩
  exact ⟨hend.2, hregister⟩

/-- **Who is inside a context that is closed.**  At any point of a run that begins with nobody
inside a context,

* if somebody is inside though the context is disposed of, or some closer has got past the
  beginning, then its first closer has begun and still waits, and another one has found it closed
  (so where one closer only comes nobody is inside);
* once the first closer has waited nobody is inside, nor will be, and no plugin will be registered
  for the context. -/
theorem inside_closed (hw : ∀ c, (w₀.life c).inFlight = 0)
    (hr : Program.Runs (uses.map program, w₀) ds t) (hr' : Program.Runs t ds' t') (c : ContextId) :
    ((t.2.life c).state = .disposed ∨ IsPassed (marks c ds) → 0 < (t.2.life c).inFlight →
      .began ∈ marks c ds ∧ .drained ∉ marks c ds ∧ .foundShut ∈ marks c ds) ∧
    (.drained ∈ marks c ds → (t'.2.life c).inFlight = 0 ∧
      ∀ r x, (⟨.register r, x⟩ : Deed) ∈ ds' → r.owner ≠ c) := by
  have hl := (runs hw hr).1 c
  obtain ⟨ks, hk, ha, hclosers⟩ := runs_closers hw hr
  refine ⟨fun hpast hin => ?_, fun hdrained => ?_⟩
  · have hwaits : .drained ∉ marks c ds := fun hm => by
      have hf := (hl.drained hm).2
      omega
    have hs₀ : (w₀.life c).state = .active := by_contra fun hs => by
      have hnone := List.count_eq_zero.2 (hr.entered_not_mem hs)
      have htally := hl.tally
      omega
    have hpassed : IsPassed (marks c ds) :=
      hpast.elim (fun hd => (hclosers.disposed c hd).resolve_left (hs₀ ▸ nofun)) id
    have hfound : .foundShut ∈ marks c ds := hpassed.resolve_left hwaits
    have hs := hr.ne_active_of_mem hfound (.inr (.inr rfl))
    have hbegan : (marks c ds).count .began = 1 := hl.began.trans (if_pos ⟨hs₀, hs⟩)
    exact ⟨List.count_pos_iff.1 (by omega), hwaits, hfound⟩
  · obtain ⟨hs, hf⟩ := hl.drained hdrained
    exact runs_empty hk ha hs hf hr'

/-! ## The bridge inside, two closers -/

/-- A version of a namespace with a driver. -/
def withDriver : Context :=
  let manifest : ArtifactKey := .data "META-INF/services/sql.Driver"
  ⟨⟨⟨1⟩, "orders", .ofList [(.code "app.Driver", .compress (.code "app.Driver") [7]),
    (manifest, .compress manifest (utf8 "app.Driver"))], .raw⟩, .childFirst, []⟩

/-- The bridge registers its driver, a holder shuts it down, the registry retires it. -/
def threeUses : List Use :=
  [.enlist {} none withDriver, .shutdown withDriver, .retire withDriver]

/-- The bridge is about to register the driver, the holder waits for it, the registry does not. -/
def retiredEarly : List Deed × List (Program Reply) × World Plugin.Directory :=
  Program.schedule [(0, (· matches .register _)), (1, fun _ => false), (2, fun _ => false)]
    (threeUses.map program, World.initial ∅)

/-- The bridge goes on, and then the holder. -/
def enlistedAfter : List Deed × List (Program Reply) × World Plugin.Directory :=
  Program.schedule [(0, fun _ => false), (1, fun _ => false)] retiredEarly.2

theorem runs_retiredEarly :
    Program.Runs (threeUses.map program, World.initial (∅ : Plugin.Directory)) retiredEarly.1
      retiredEarly.2 :=
  Program.runs_schedule _ _

theorem runs_enlistedAfter : Program.Runs retiredEarly.2 enlistedAfter.1 enlistedAfter.2 :=
  Program.runs_schedule _ _

/-- The first closer waits while the second one goes on; afterwards nobody is inside. -/
theorem inside_closed_early :
    (retiredEarly.2.2.life withDriver.id).inFlight = 1 ∧
      (.began ∈ marks withDriver.id retiredEarly.1 ∧ .drained ∉ marks withDriver.id retiredEarly.1 ∧
        .foundShut ∈ marks withDriver.id retiredEarly.1) ∧
      .drained ∈ marks withDriver.id (retiredEarly.1 ++ enlistedAfter.1) ∧
      (enlistedAfter.2.2.life withDriver.id).inFlight = 0 := by
  have hw : ∀ c, ((World.initial (∅ : Plugin.Directory)).life c).inFlight = 0 := fun _ => rfl
  have hdisposed : (retiredEarly.2.2.life withDriver.id).state = .disposed := by decide +kernel
  have hinside : (retiredEarly.2.2.life withDriver.id).inFlight = 1 := by decide +kernel
  have hdrained : .drained ∈ marks withDriver.id (retiredEarly.1 ++ enlistedAfter.1) := by
    decide +kernel
  have hclosers := (inside_closed hw runs_retiredEarly runs_enlistedAfter withDriver.id).1
    (.inl hdisposed) (by omega)
  have hend := (inside_closed hw (runs_retiredEarly.append runs_enlistedAfter) (.stop _)
    withDriver.id).2 hdrained
  exact ⟨hinside, hclosers, hdrained, hend.1⟩

/-- **A context is retired while its plugins are registered.**  The registry has returned and the
context is disposed of, yet the bridge is inside; in the end, when all have returned, the context
owns the driver that was registered then. -/
theorem enlisted_late :
    ∃ ds ds' t t', Program.Runs (threeUses.map program, World.initial (∅ : Plugin.Directory)) ds t ∧
      t.1[2]?.any Program.isDone = true ∧ (t.2.life withDriver.id).state = .disposed ∧
      (t.2.life withDriver.id).inFlight = 1 ∧
      Program.Runs t ds' t' ∧ (∀ p ∈ t'.1, p.isDone = true) ∧
      (t'.2.plugins.ownedBy withDriver.id).map (·.registration) =
        [⟨"sql.Driver", "app.Driver", withDriver.id, "orders"⟩] :=
  ⟨_, _, _, _, runs_retiredEarly, by decide +kernel, by decide +kernel, by decide +kernel,
    runs_enlistedAfter, by decide +kernel, by decide +kernel⟩

end Use

end Tenancy
