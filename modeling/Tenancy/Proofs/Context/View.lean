import Tenancy.Context.Resolution

/-!
# Proofs/Context/View — what a look-up sees, and what it leaves alone

A look-up sees three things of the world: which contexts are in use, which sources somebody holds
and what the names are bound to.  This is the *view*; it fixes the answer (`Chain.reads_ask`,
`Chain.reads_askAll`), and the world that comes after has it again, since all a look-up leaves
behind are reports (`World.Calm`).  So answers of look-ups are functions of the view, and a program
made of look-ups can be evaluated without running it.
-/

namespace Tenancy

open Program (perform)

/-- What a look-up sees of the world. -/
structure View where
  /-- The context is in use. -/
  isOpen : ContextId → Bool
  /-- Somebody holds the source. -/
  isHeld : ContextId → Bool
  bound : Table String Context

namespace World

variable {σ : Type}

def view (w : World σ) : View where
  isOpen c := (w.life c).state = .active
  isHeld c := !w.gone.contains c
  bound := w.bound

/-- The worlds differ in nothing but reports. -/
structure Calm (w w' : World σ) : Prop where
  nextId : w'.nextId = w.nextId
  bound : w'.bound = w.bound
  defaultDefined : w'.defaultDefined = w.defaultDefined
  plugins : w'.plugins = w.plugins
  gone : w'.gone = w.gone
  state : ∀ c, (w'.life c).state = (w.life c).state
  inFlight : ∀ c, (w'.life c).inFlight = (w.life c).inFlight

namespace Calm

variable {w w' w'' : World σ}

theorem refl (w : World σ) : w.Calm w :=
  ⟨rfl, rfl, rfl, rfl, rfl, fun _ => rfl, fun _ => rfl⟩

theorem trans (h : w.Calm w') (h' : w'.Calm w'') : w.Calm w'' where
  nextId := h'.nextId.trans h.nextId
  bound := h'.bound.trans h.bound
  defaultDefined := h'.defaultDefined.trans h.defaultDefined
  plugins := h'.plugins.trans h.plugins
  gone := h'.gone.trans h.gone
  state c := (h'.state c).trans (h.state c)
  inFlight c := (h'.inFlight c).trans (h.inFlight c)

theorem view_eq (h : w.Calm w') : w'.view = w.view := by
  simp only [view, h.bound, h.gone, h.state]

/-- Reports change nothing else. -/
theorem events (w : World σ) (es : List Event) : w.Calm { w with events := es } :=
  ⟨rfl, rfl, rfl, rfl, rfl, fun _ => rfl, fun _ => rfl⟩

/-- Nor does a lifecycle in which only the record of refusals is new. -/
theorem withLife {c : ContextId} {l : Lifecycle} (hs : l.state = (w.life c).state)
    (hf : l.inFlight = (w.life c).inFlight) : w.Calm (w.withLife c l) := by
  refine ⟨rfl, rfl, rfl, rfl, rfl, fun c' => ?_, fun c' => ?_⟩
  · rw [life_withLife]
    split
    · rename_i hc; rw [hc, hs]
    · rfl
  · rw [life_withLife]
    split
    · rename_i hc; rw [hc, hf]
    · rfl

end Calm

/-- The world in which one more resolution is inside a context. -/
def entered (w : World σ) (c : ContextId) : World σ :=
  w.withLife c { w.life c with inFlight := (w.life c).inFlight + 1 }

theorem state_entered (w : World σ) (c c' : ContextId) :
    ((w.entered c).life c').state = (w.life c').state := by
  rw [entered, life_withLife]
  split
  · rename_i h; rw [h]
  · rfl

theorem inFlight_entered (w : World σ) (c c' : ContextId) :
    ((w.entered c).life c').inFlight = (w.life c').inFlight + if c' = c then 1 else 0 := by
  rw [entered, life_withLife]
  split
  · rename_i h; rw [h]
  · rfl

theorem view_entered (w : World σ) (c : ContextId) : (w.entered c).view = w.view := by
  simp only [view, state_entered]
  rfl

/-- **What was entered calmly is left calmly.** -/
theorem Calm.leave {w w' : World σ} {c : ContextId} (h : (w.entered c).Calm w') :
    w.Calm (w'.withLife c (w'.life c).leave) := by
  refine ⟨h.nextId, h.bound, h.defaultDefined, h.plugins, h.gone, fun c' => ?_, fun c' => ?_⟩
  · rw [life_withLife]
    split
    · rename_i hc; rw [hc, Lifecycle.leave, h.state, state_entered]
    · rw [h.state, state_entered]
  · rw [life_withLife]
    split
    · rename_i hc
      rw [hc, Lifecycle.leave, h.inFlight, inFlight_entered, if_pos rfl, Nat.add_sub_cancel]
    · rename_i hc
      rw [h.inFlight, inFlight_entered, if_neg hc, Nat.add_zero]

end World

/-- Entering, action by action. -/
theorem Holding.enter_eq (h : Holding) :
    h.enter = .act (.enter h.id) fun inside =>
      if inside = true then .done (.ok ())
      else .act (.refuse h.id) fun first =>
        if first = true then
          .act (.report h.retiredWarning) fun _ => .done (.error (.contextShutdown h.id h.name))
        else .done (.error (.contextShutdown h.id h.name)) := rfl

theorem Holding.run_enter {σ : Type} [Plugin.Backend σ] (h : Holding) {w : World σ}
    (ho : (w.life h.id).state = .active) : h.enter.run w = (.ok (), w.entered h.id) := by
  simp [enter, perform, World.perform, Lifecycle.enter, ho, World.entered]

/-! ## Programs whose answer is read off the view -/

/-- In every world with this view the program answers `x` and leaves nothing but reports. -/
def Program.Reads {α : Type} (v : View) (p : Program α) (x : α) : Prop :=
  ∀ (σ : Type) [Plugin.Backend σ] (w : World σ), w.view = v → (p.run w).1 = x ∧ w.Calm (p.run w).2

namespace Program.Reads

variable {α β : Type} {v : View}

theorem done (x : α) : (Program.done x).Reads v x :=
  fun _ _ w _ => ⟨rfl, .refl w⟩

/-- An answer that is fixed is the one that is given. -/
theorem of_run {σ : Type} [Plugin.Backend σ] {p : Program α} {x : α} {w : World σ}
    (hp : p.Reads w.view x) : p.Reads w.view (p.run w).1 := by
  rw [(hp σ w rfl).1]
  exact hp

/-- An action that is calm in such worlds, whatever part of its answer the view does not tell. -/
theorem act {a : Action} {next : a.Answer → Program α} {x : α}
    (h : ∀ (σ : Type) [Plugin.Backend σ] (w : World σ), w.view = v →
      w.Calm (w.perform a).2 ∧ (next (w.perform a).1).Reads v x) :
    (Program.act a next).Reads v x := by
  intro σ _ w hw
  obtain ⟨hc, hnext⟩ := h σ w hw
  obtain ⟨hx, hc'⟩ := hnext σ (w.perform a).2 (hc.view_eq.trans hw)
  exact ⟨hx, hc.trans hc'⟩

theorem bind {p : Program α} {x : α} {f : α → Program β} {y : β} (hp : p.Reads v x)
    (hf : (f x).Reads v y) : (p >>= f).Reads v y := by
  intro σ _ w hw
  obtain ⟨hx, hc⟩ := hp σ w hw
  obtain ⟨hy, hc'⟩ := hf σ (p.run w).2 (hc.view_eq.trans hw)
  rw [run_bind, hx]
  exact ⟨hy, hc.trans hc'⟩

theorem report (e : Event) : (perform (.report e)).Reads v () :=
  fun _ _ w _ => ⟨rfl, .events w _⟩

theorem isHeld (c : ContextId) : (perform (.isHeld c)).Reads v (v.isHeld c) := by
  intro σ _ w hw
  subst hw
  exact ⟨rfl, .refl w⟩

theorem boundTo (name : String) : (perform (.boundTo name)).Reads v (v.bound.get? name) := by
  intro σ _ w hw
  subst hw
  exact ⟨rfl, .refl w⟩

/-- A context that is not in use refuses. -/
theorem enter_shut {h : Holding} (ho : v.isOpen h.id = false) :
    h.enter.Reads v (.error (.contextShutdown h.id h.name)) := by
  rw [Holding.enter_eq]
  refine act fun σ _ w hw => ?_
  subst hw
  have hstate : (w.life h.id).state ≠ .active := of_decide_eq_false ho
  simp only [World.perform, Lifecycle.enter, if_neg hstate, Bool.false_eq_true, if_false]
  refine ⟨.withLife rfl rfl, act fun σ _ w _ => ⟨.withLife rfl rfl, ?_⟩⟩
  -- whether the refusal is the first is not in the view
  split
  · exact (report _).bind (done _)
  · exact done _

/-- **Inside a context that is in use, a body reads what it reads outside.** -/
theorem within {h : Holding} {body : Program (Except NamespaceError α)}
    {x : Except NamespaceError α} (ho : v.isOpen h.id = true) (hb : body.Reads v x) :
    (h.within body).Reads v x := by
  intro σ _ w hw
  subst hw
  obtain ⟨hx, hc⟩ := hb σ (w.entered h.id) (w.view_entered h.id)
  simp only [Holding.within, run_bind, h.run_enter (of_decide_eq_true ho)]
  exact ⟨hx, hc.leave⟩

theorem within_shut {h : Holding} {body : Program (Except NamespaceError α)}
    (ho : v.isOpen h.id = false) :
    (h.within body).Reads v (.error (.contextShutdown h.id h.name)) :=
  (enter_shut ho).bind (done _)

end Program.Reads

/-! ## Answers as functions of the view -/

/-- The first answer, or the second where the first is a miss. -/
def Chain.otherwise : Found → Found → Found
  | .ok none, other => other
  | found, _ => found

namespace View

/-- The part of a chain that is still held together. -/
def reach (v : View) : List Layer → List Layer
  | [] => []
  | l :: behind => l :: behind.takeWhile fun b => v.isHeld b.id

/-- What a look-up finds in a chain, `stand` being what a resolver gives. -/
def first (v : View) (stand : Option Holding → Found) (key : ArtifactKey) : List Layer → Found
  | [] => .ok none
  | .host own :: _ => own.find key
  | .resolver _ host :: _ => stand host
  | .context own order :: behind =>
    if v.isOpen own.id = true then
      match order with
      | .childFirst => Chain.otherwise (own.find key) (first v stand key behind)
      | .parentFirst => Chain.otherwise (first v stand key behind) (own.find key)
    else .error (.contextShutdown own.id own.name)

/-- Everything that a look-up of all matches finds in a chain. -/
def every (v : View) (stand : Option Holding → Except NamespaceError (List Artifact))
    (key : ArtifactKey) : List Layer → Except NamespaceError (List Artifact)
  | [] => .ok []
  | .host own :: _ => (own.find key).map Option.toList
  | .resolver _ host :: _ => stand host
  | .context own order :: behind =>
    if v.isOpen own.id = true then
      match own.find key with
      | .error e => .error e
      | .ok mine => (every v stand key behind).map (Chain.merge order mine)
    else .error (.contextShutdown own.id own.name)

section Every

variable {v : View} {stand : Option Holding → Except NamespaceError (List Artifact)}
  {key : ArtifactKey} {own : Holding} {order : ResolutionOrder} {behind : List Layer}
  {found : List Artifact}

theorem every_host_ok (h : v.every stand key (.host own :: behind) = .ok found) :
    ∃ mine, own.find key = .ok mine ∧ found = mine.toList := by
  simp only [every] at h
  cases hown : own.find key with
  | error e => rw [hown] at h; cases h
  | ok mine =>
    rw [hown] at h
    cases h
    exact ⟨mine, rfl, rfl⟩

/-- All matches in a context are its own and those behind it, in its order. -/
theorem every_context_ok (h : v.every stand key (.context own order :: behind) = .ok found) :
    ∃ mine inherited, own.find key = .ok mine ∧ v.every stand key behind = .ok inherited ∧
      found = Chain.merge order mine inherited := by
  simp only [every] at h
  split at h
  · cases hown : own.find key with
    | error e => rw [hown] at h; cases h
    | ok mine =>
      cases hrest : v.every stand key behind with
      | error e => rw [hown, hrest] at h; cases h
      | ok inherited =>
        rw [hown, hrest] at h
        cases h
        exact ⟨mine, inherited, rfl, rfl, rfl⟩
  · cases h

end Every

/-- The source that a resolver stands for. -/
def pick (v : View) (active : Option String) (host : Option Holding) : Option Source :=
  match active.bind v.bound.get? with
  | some c => some c.source
  | none => host.map .ofHost

def resolved (v : View) (active : Option String) (key : ArtifactKey) (host : Option Holding) :
    Found :=
  match v.pick active host with
  | some s => v.first (fun _ => .ok none) key (v.reach s.layers)
  | none => .ok none

def resolvedAll (v : View) (active : Option String) (key : ArtifactKey) (host : Option Holding) :
    Except NamespaceError (List Artifact) :=
  match v.pick active host with
  | some s => v.every (fun _ => .ok []) key (v.reach s.layers)
  | none => .ok []

end View

namespace Chain

variable {v : View} {key : ArtifactKey}

/-- What is behind a layer is asked as far as it is held. -/
theorem reads_behind {α : Type} {miss : α} {ask : List Layer → Program (Except NamespaceError α)}
    (answer : List Layer → Except NamespaceError α) (hnil : answer [] = .ok miss)
    (behind : List Layer) (hask : (ask behind).Reads v (answer (v.reach behind))) :
    (do if ← isHeld behind then ask behind else return .ok miss : Program _).Reads v
      (answer (behind.takeWhile fun b => v.isHeld b.id)) := by
  cases behind with
  | nil =>
    rw [List.takeWhile_nil, hnil]
    exact .done _
  | cons l behind =>
    refine (Program.Reads.isHeld l.id).bind ?_
    cases hl : v.isHeld l.id with
    | false =>
      simp only [List.takeWhile_cons, hl, Bool.false_eq_true, if_false, hnil]
      exact .done _
    | true =>
      simp only [List.takeWhile_cons, hl, if_true]
      exact hask

variable {resolver : Option Holding → ArtifactKey → Program Found} {stand : Option Holding → Found}

/-- **The first match is read off the view**, a resolver's answers being so. -/
theorem reads_ask (hr : ∀ host, (resolver host key).Reads v (stand host)) (layers : List Layer) :
    (ask resolver key layers).Reads v (v.first stand key (v.reach layers)) := by
  induction layers with
  | nil => exact .done _
  | cons l behind ih =>
    have hrest := reads_behind (v.first stand key) rfl behind ih
    cases l with
    | host own => exact .done _
    | resolver _ host => exact hr host
    | context own order =>
      cases ho : v.isOpen own.id with
      | false =>
        simp only [View.reach, View.first, ho, Bool.false_eq_true, if_false]
        cases order <;> exact .within_shut ho
      | true =>
        simp only [View.reach, View.first, ho, if_true]
        cases order with
        | childFirst =>
          refine .within ho ?_
          cases hown : own.find key with
          | error e => exact .done _
          | ok found =>
            cases found with
            | none => exact hrest
            | some a => exact .done _
        | parentFirst =>
          refine .within ho (hrest.bind ?_)
          cases hfound : v.first stand key (behind.takeWhile fun b => v.isHeld b.id) with
          | error e => exact .done _
          | ok found => cases found <;> exact .done _

variable
  {resolverAll : Option Holding → ArtifactKey → Program (Except NamespaceError (List Artifact))}
  {standAll : Option Holding → Except NamespaceError (List Artifact)}

/-- **And so is every match.** -/
theorem reads_askAll (hr : ∀ host, (resolverAll host key).Reads v (standAll host))
    (layers : List Layer) :
    (askAll resolverAll key layers).Reads v (v.every standAll key (v.reach layers)) := by
  induction layers with
  | nil => exact .done _
  | cons l behind ih =>
    have hrest := reads_behind (v.every standAll key) rfl behind ih
    cases l with
    | host own => exact .done _
    | resolver _ host => exact hr host
    | context own order =>
      cases ho : v.isOpen own.id with
      | false =>
        simp only [View.reach, View.every, ho, Bool.false_eq_true, if_false]
        exact .within_shut ho
      | true =>
        simp only [View.reach, View.every, ho, if_true]
        refine .within ho ?_
        cases hown : own.find key with
        | error e => exact .done _
        | ok mine =>
          refine hrest.bind ?_
          cases hinherited : v.every standAll key (behind.takeWhile fun b => v.isHeld b.id) <;>
            exact .done _

/-! ## Through a resolver -/

theorem reads_pick (active : Option String) (host : Option Holding) :
    (pick active host).Reads v (v.pick active host) := by
  cases active with
  | none => exact .done _
  | some name =>
    refine (Program.Reads.boundTo name).bind ?_
    simp only [View.pick, Option.bind_some]
    cases v.bound.get? name <;> exact .done _

theorem reads_askBound (s : Source) :
    (askBound key s).Reads v (v.first (fun _ => .ok none) key (v.reach s.layers)) :=
  reads_ask (fun _ => .done _) s.layers

theorem reads_askAllBound (s : Source) :
    (askAllBound key s).Reads v (v.every (fun _ => .ok []) key (v.reach s.layers)) :=
  reads_askAll (fun _ => .done _) s.layers

theorem reads_askResolver (active : Option String) (host : Option Holding) :
    (askResolver active host key).Reads v (v.resolved active key host) := by
  refine (reads_pick active host).bind ?_
  simp only [View.resolved]
  cases v.pick active host with
  | none => exact .done _
  | some s => exact reads_askBound s

theorem reads_askAllResolver (active : Option String) (host : Option Holding) :
    (askAllResolver active host key).Reads v (v.resolvedAll active key host) := by
  refine (reads_pick active host).bind ?_
  simp only [View.resolvedAll]
  cases v.pick active host with
  | none => exact .done _
  | some s => exact reads_askAllBound s

end Chain

/-! ## Look-ups -/

namespace Source

variable {v : View}

/-- A context or a host answers for itself: a miss is a miss of its own. -/
theorem reads_lookup (active : Option String) {s : Source} (key : ArtifactKey)
    (hs : ∀ id host, s.head ≠ .resolver id host) :
    (s.lookup active key).Reads v
      (orNotFound key s.id (v.first (v.resolved active key) key (v.reach s.layers))) := by
  obtain ⟨head, behind⟩ := s
  have hask : (Chain.ask (Chain.askResolver active) key (head :: behind)).Reads v
      (v.first (v.resolved active key) key (v.reach (head :: behind))) :=
    Chain.reads_ask (Chain.reads_askResolver active) (head :: behind)
  cases head with
  | context own order => exact hask.bind (.done _)
  | host own => exact hask.bind (.done _)
  | resolver id host => exact absurd rfl (hs id host)

theorem reads_lookupAll (active : Option String) (s : Source) (key : ArtifactKey) :
    (s.lookupAll active key).Reads v
      (v.every (v.resolvedAll active key) key (v.reach s.layers)) :=
  Chain.reads_askAll (Chain.reads_askAllResolver active) s.layers

end Source

/-! ## What an answer depends on -/

/-- No resolver stands for something else. -/
def Layer.isPlain : Layer → Prop
  | .resolver .. => False
  | _ => True

theorem Source.head_ne {s : Source} (hp : ∀ l ∈ s.layers, l.isPlain) (id : ContextId)
    (host : Option Holding) : s.head ≠ .resolver id host := by
  intro he
  have hplain := hp s.head List.mem_cons_self
  rw [he] at hplain
  exact hplain

/-- The views agree about a source that asks no resolver: which of its contexts are in use, and how
far its chain is held. -/
structure View.Agree (v v' : View) (s : Source) : Prop where
  plain : ∀ l ∈ s.layers, l.isPlain
  isOpen : ∀ own order, .context own order ∈ s.layers → v.isOpen own.id = v'.isOpen own.id
  isHeld : ∀ l ∈ s.behind, v.isHeld l.id = v'.isHeld l.id

namespace View

variable {v v' : View} {key : ArtifactKey}

theorem mem_of_mem_reach {s : Source} {l : Layer} (hl : l ∈ v.reach s.layers) : l ∈ s.layers := by
  rcases List.mem_cons.1 hl with rfl | hl
  · exact List.mem_cons_self
  · exact List.mem_cons_of_mem _ (List.takeWhile_subset _ hl)

theorem takeWhile_isHeld {chain : List Layer} (hh : ∀ l ∈ chain, v.isHeld l.id = v'.isHeld l.id) :
    (chain.takeWhile fun l => v.isHeld l.id) = chain.takeWhile fun l => v'.isHeld l.id := by
  induction chain with
  | nil => rfl
  | cons l chain ih =>
    obtain ⟨hl, hc⟩ := List.forall_mem_cons.1 hh
    rw [List.takeWhile_cons, List.takeWhile_cons, hl, ih hc]

theorem first_congr {stand stand' : Option Holding → Found} {chain : List Layer}
    (hp : ∀ l ∈ chain, l.isPlain)
    (ho : ∀ own order, .context own order ∈ chain → v.isOpen own.id = v'.isOpen own.id) :
    v.first stand key chain = v'.first stand' key chain := by
  induction chain with
  | nil => rfl
  | cons l chain ih =>
    obtain ⟨hl, hc⟩ := List.forall_mem_cons.1 hp
    have hrest := ih hc fun own order h => ho own order (List.mem_cons_of_mem _ h)
    cases l with
    | host own => rfl
    | resolver id host => exact hl.elim
    | context own order => simp only [first, ho own order List.mem_cons_self, hrest]

theorem every_congr {stand stand' : Option Holding → Except NamespaceError (List Artifact)}
    {chain : List Layer} (hp : ∀ l ∈ chain, l.isPlain)
    (ho : ∀ own order, .context own order ∈ chain → v.isOpen own.id = v'.isOpen own.id) :
    v.every stand key chain = v'.every stand' key chain := by
  induction chain with
  | nil => rfl
  | cons l chain ih =>
    obtain ⟨hl, hc⟩ := List.forall_mem_cons.1 hp
    have hrest := ih hc fun own order h => ho own order (List.mem_cons_of_mem _ h)
    cases l with
    | host own => rfl
    | resolver id host => exact hl.elim
    | context own order => simp only [every, ho own order List.mem_cons_self, hrest]

namespace Agree

variable {s : Source}

theorem reach_eq (h : v.Agree v' s) : v.reach s.layers = v'.reach s.layers :=
  congrArg (s.head :: ·) (takeWhile_isHeld h.isHeld)

variable {σ : Type} [Plugin.Backend σ] {w w' : World σ}

/-- **A look-up that asks no resolver answers the same** wherever the views agree about its source,
whichever namespace is active. -/
theorem lookup_eq (h : w.view.Agree w'.view s) (active active' : Option String)
    (key : ArtifactKey) :
    ((s.lookup active key).run w).1 = ((s.lookup active' key).run w').1 := by
  rw [(Source.reads_lookup active key (Source.head_ne h.plain) σ w rfl).1,
    (Source.reads_lookup active' key (Source.head_ne h.plain) σ w' rfl).1, ← h.reach_eq]
  exact congrArg (Source.orNotFound key s.id) (first_congr
    (fun l hl => h.plain l (mem_of_mem_reach hl))
    fun own order hl => h.isOpen own order (mem_of_mem_reach hl))

theorem lookupAll_eq (h : w.view.Agree w'.view s) (active active' : Option String)
    (key : ArtifactKey) :
    ((s.lookupAll active key).run w).1 = ((s.lookupAll active' key).run w').1 := by
  rw [(Source.reads_lookupAll active s key σ w rfl).1,
    (Source.reads_lookupAll active' s key σ w' rfl).1, ← h.reach_eq]
  exact every_congr (fun l hl => h.plain l (mem_of_mem_reach hl))
    fun own order hl => h.isOpen own order (mem_of_mem_reach hl)

end Agree

end View

end Tenancy
