import Tenancy.Plugin.Directory
import Tenancy.Proofs.Context.Flights

/-!
# Proofs/Context/Retirement — resolutions while contexts are retired

Any number of threads resolve and shut down contexts, one action at a time.  A resolution answers
what was fixed when its chain was built, or that a context of the chain is shut down
(`Chain.keeps_ask`, `Chain.keeps_askAll`); no resolution enters a context after the first refusal,
and none is inside it once its first closer has waited (`Use.interleave`).
-/

namespace Tenancy

open Program (perform)

/-! ## Answers that are fixed -/

/-- Everything is in use and held. -/
def View.intact : View :=
  ⟨fun _ => true, fun _ => true, ∅⟩

/-- The failure that a context of the chain is shut down. -/
def Chain.IsRefusal (chain : List Layer) (e : NamespaceError) : Prop :=
  ∃ own order, .context own order ∈ chain ∧ e = .contextShutdown own.id own.name

/-- The answer is a fixed one, or a context of the chain is shut down. -/
def Chain.Settles {α : Type} (chain : List Layer) (answer r : Except NamespaceError α) : Prop :=
  r = answer ∨ ∃ e, IsRefusal chain e ∧ r = .error e

namespace Chain

variable {α G : Type} {D : Discipline G} {enters : G → ContextId → G} {g : G} {key : ArtifactKey}
  {own : Holding} {order : ResolutionOrder} {behind : List Layer}

theorem settles_refused (own : Holding) (order : ResolutionOrder) (behind : List Layer)
    (answer : Except NamespaceError α) :
    Settles (.context own order :: behind) answer (.error (.contextShutdown own.id own.name)) :=
  .inr ⟨_, ⟨own, order, List.mem_cons_self, rfl⟩, rfl⟩

theorem Settles.cons {answer r : Except NamespaceError α} (h : Settles behind answer r)
    (l : Layer) : Settles (l :: behind) answer r := by
  rcases h with h | ⟨e, ⟨own, order, hmem, he⟩, hr⟩
  · exact .inl h
  · exact .inr ⟨e, ⟨own, order, List.mem_cons_of_mem l hmem, he⟩, hr⟩

/-- What is behind a layer is asked, since it is held. -/
theorem keeps_behind_held (hD : D.Welcomes enters)
    (hheld : ∀ l ∈ behind, ∀ g, ¬ D.expects g (.isHeld l.id) false)
    {ask : List Layer → Program (Except NamespaceError α)} {miss : Except NamespaceError α}
    {post : G → Except NamespaceError α → Prop} (ha : (ask behind).Keeps D post g)
    (hnil : ask [] = .done miss) :
    (do if ← isHeld behind then ask behind else return miss : Program _).Keeps D post g := by
  refine keeps_behind hD ha fun hgone => ?_
  cases behind with
  | nil => rwa [hnil] at ha
  | cons l behind => exact absurd (hgone l rfl) (hheld l List.mem_cons_self g)

/-- **The first match is a fixed one**, or a context of the chain is shut down, if no resolver is
asked and delegates are held. -/
theorem keeps_ask (hD : D.Welcomes enters) {layers : List Layer} (hplain : ∀ l ∈ layers, l.isPlain)
    (hheld : ∀ l ∈ layers.tail, ∀ g, ¬ D.expects g (.isHeld l.id) false)
    (resolver : Option Holding → ArtifactKey → Program Found) (stand : Option Holding → Found) :
    (ask resolver key layers).Keeps D
      (fun g' r => g' = g ∧ Settles layers (View.intact.first stand key layers) r) g := by
  induction layers generalizing g with
  | nil => exact .done ⟨rfl, .inl rfl⟩
  | cons l behind ih =>
    obtain ⟨hl, hb⟩ := List.forall_mem_cons.1 hplain
    have htail : ∀ l ∈ behind.tail, ∀ g, ¬ D.expects g (.isHeld l.id) false :=
      fun l hl => hheld l (List.mem_of_mem_tail hl)
    cases l with
    | host own => exact .done ⟨rfl, .inl rfl⟩
    | resolver id host => exact hl.elim
    | context own order =>
      have hrest := keeps_behind_held hD hheld (ih hb htail (g := enters g own.id)) rfl
      cases order with
      | childFirst =>
        refine Holding.keeps_within hD ?_ (settles_refused own _ behind _)
        change Program.Keeps D (fun g' r => g' = enters g own.id ∧
          Settles _ (otherwise (own.find key) (View.intact.first stand key behind)) r) _ _
        rcases own.find key with e | _ | a
        · exact .done ⟨rfl, .inl rfl⟩
        · exact hrest.imp fun g' r hr => ⟨hr.1, hr.2.cons _⟩
        · exact .done ⟨rfl, .inl rfl⟩
      | parentFirst =>
        refine Holding.keeps_within hD (hrest.bind fun g' found hfound => ?_)
          (settles_refused own _ behind _)
        change Program.Keeps D (fun g' r => g' = enters g own.id ∧
          Settles _ (otherwise (View.intact.first stand key behind) (own.find key)) r) _ _
        obtain ⟨rfl, rfl | ⟨e, he, rfl⟩⟩ := hfound
        · rcases View.intact.first stand key behind with e | _ | a <;> exact .done ⟨rfl, .inl rfl⟩
        · exact .done ⟨rfl, Settles.cons (.inr ⟨e, he, rfl⟩) _⟩

/-- **And so is every match.** -/
theorem keeps_askAll (hD : D.Welcomes enters) {layers : List Layer}
    (hplain : ∀ l ∈ layers, l.isPlain)
    (hheld : ∀ l ∈ layers.tail, ∀ g, ¬ D.expects g (.isHeld l.id) false)
    (resolver : Option Holding → ArtifactKey → Program (Except NamespaceError (List Artifact)))
    (stand : Option Holding → Except NamespaceError (List Artifact)) :
    (askAll resolver key layers).Keeps D
      (fun g' r => g' = g ∧ Settles layers (View.intact.every stand key layers) r) g := by
  induction layers generalizing g with
  | nil => exact .done ⟨rfl, .inl rfl⟩
  | cons l behind ih =>
    obtain ⟨hl, hb⟩ := List.forall_mem_cons.1 hplain
    have htail : ∀ l ∈ behind.tail, ∀ g, ¬ D.expects g (.isHeld l.id) false :=
      fun l hl => hheld l (List.mem_of_mem_tail hl)
    cases l with
    | host own => exact .done ⟨rfl, .inl rfl⟩
    | resolver id host => exact hl.elim
    | context own order =>
      have hrest := keeps_behind_held hD hheld (ih hb htail (g := enters g own.id)) rfl
      have hevery : View.intact.every stand key (.context own order :: behind) =
          own.find key >>= fun mine =>
            (View.intact.every stand key behind).map (merge order mine) := by
        rw [View.every]
        cases own.find key <;> rfl
      refine Holding.keeps_within hD ?_ (settles_refused own order behind _)
      rw [hevery]
      rcases own.find key with e | mine
      · exact .done ⟨rfl, .inl rfl⟩
      · refine hrest.bind fun g' found hfound => ?_
        obtain ⟨rfl, rfl | ⟨e, he, rfl⟩⟩ := hfound
        · rcases View.intact.every stand key behind with e | inherited <;>
            exact .done ⟨rfl, .inl rfl⟩
        · exact .done ⟨rfl, Settles.cons (.inr ⟨e, he, rfl⟩) _⟩

end Chain

namespace Context

/-- What a look-up of one match finds where everything is in use. -/
def built (c : Context) (key : ArtifactKey) : Except NamespaceError Artifact :=
  Source.orNotFound key c.id (View.intact.first (fun _ => .ok none) key c.source.layers)

def builtAll (c : Context) (key : ArtifactKey) : Except NamespaceError (List Artifact) :=
  View.intact.every (fun _ => .ok []) key c.source.layers

/-- **Delegates are held, and are hosts or contexts.** -/
structure IsGrounded (c : Context) (gone : List ContextId) : Prop where
  plain : ∀ l ∈ c.source.layers, l.isPlain
  held : ∀ l ∈ c.behind, gone.contains l.id = false

variable {c : Context} {gone : List ContextId} {g : Visit}

theorem IsGrounded.isHeld (h : c.IsGrounded gone) :
    ∀ l ∈ c.source.layers.tail, ∀ g,
      ¬ (visiting (Attended.heldBy gone)).expects g (.isHeld l.id) false := by
  intro l hl g hx
  have hgone : false = !gone.contains l.id := hx
  rw [h.held l hl] at hgone
  cases hgone

theorem keeps_lookup (c : Context) (gone : List ContextId) (active : Option String)
    (key : ArtifactKey) :
    (c.source.lookup active key).Keeps (visiting (Attended.heldBy gone)) (fun g' r => g' = g ∧
      (c.IsGrounded gone → Chain.Settles c.source.layers (c.built key) r)) g := by
  have hhosts := (Visit.hosts (Attended.heldBy gone)).toWelcomes
  by_cases h : c.IsGrounded gone
  · refine (Chain.keeps_ask hhosts h.plain h.isHeld (Chain.askResolver active)
      fun _ => .ok none).bind fun g' found hfound => ?_
    obtain ⟨rfl, rfl | ⟨e, he, rfl⟩⟩ := hfound
    · exact .done ⟨rfl, fun _ => .inl rfl⟩
    · exact .done ⟨rfl, fun _ => .inr ⟨e, he, rfl⟩⟩
  · exact (Source.restores_lookup hhosts active c.source key).imp
      fun _ _ hg' => ⟨hg', fun hc => absurd hc h⟩

theorem keeps_lookupAll (c : Context) (gone : List ContextId) (active : Option String)
    (key : ArtifactKey) :
    (c.source.lookupAll active key).Keeps (visiting (Attended.heldBy gone)) (fun g' r => g' = g ∧
      (c.IsGrounded gone → Chain.Settles c.source.layers (c.builtAll key) r)) g := by
  have hhosts := (Visit.hosts (Attended.heldBy gone)).toWelcomes
  by_cases h : c.IsGrounded gone
  · exact (Chain.keeps_askAll hhosts h.plain h.isHeld (Chain.askAllResolver active)
      fun _ => .ok []).imp fun _ _ hr => ⟨hr.1, fun _ => hr.2⟩
  · exact (Source.restores_lookupAll hhosts active c.source key).imp
      fun _ _ hg' => ⟨hg', fun hc => absurd hc h⟩

theorem keeps_findLocal (c : Context) (gone : List ContextId) (key : ArtifactKey) :
    (c.findLocal key).Keeps (visiting (Attended.heldBy gone)) (fun g' r => g' = g ∧
      Chain.Settles [.context c.own c.order] (c.own.find key) r) g :=
  Holding.keeps_within (Visit.hosts _).toWelcomes (.done ⟨rfl, .inl rfl⟩)
    (Chain.settles_refused c.own c.order [] _)

end Context

/-! ## Uses of contexts -/

/-- What a thread does with a context. -/
inductive Use where
  | resolve (active : Option String) (c : Context) (id : String)
  | enumerate (active : Option String) (c : Context) (id : String)
  | findResource (active : Option String) (c : Context) (path : String)
  | findResources (active : Option String) (c : Context) (path : String)
  | findLocal (c : Context) (key : ArtifactKey)
  /-- The bridge registers the plugins of the context. -/
  | enlist (b : BridgeSettings) (active : Option String) (c : Context)
  /-- A holder of the context shuts it down. -/
  | shutdown (c : Context)
  /-- The registry does, and removes its plugins. -/
  | retire (c : Context)

inductive Reply where
  | one (r : Except NamespaceError Artifact)
  | all (r : Except NamespaceError (List Artifact))
  | own (r : Found)
  | registered (n : Nat)
  | closed
  deriving Repr, DecidableEq

namespace Use

def context : Use → Context
  | .resolve _ c _ | .enumerate _ c _ | .findResource _ c _ | .findResources _ c _ => c
  | .findLocal c _ | .enlist _ _ c | .shutdown c | .retire c => c

def program : Use → Program Reply
  | .resolve active c id => do return .one (← c.resolve active id)
  | .enumerate active c id => do return .all (← c.enumerate active id)
  | .findResource active c path => do return .one (← c.findResource active path)
  | .findResources active c path => do return .all (← c.findResources active path)
  | .findLocal c key => do return .own (← c.findLocal key)
  | .enlist b active c => do return .registered (← Bridge.enlist b active c)
  | .shutdown c => do
    c.shutdown
    return .closed
  | .retire c => do
    Registry.retire c
    return .closed

/-- **The reply is the one that was fixed when the chain was built**, or the refusal of a context in
it. -/
def Answers : Use → Reply → Prop
  | .resolve _ c id, r => ∃ x, r = .one x ∧ Chain.Settles c.source.layers (c.built (.code id)) x
  | .enumerate _ c id, r =>
    ∃ x, r = .all x ∧ Chain.Settles c.source.layers (c.builtAll (.code id)) x
  | .findResource _ c path, r =>
    ∃ x, r = .one x ∧ Chain.Settles c.source.layers (c.built (.data path)) x
  | .findResources _ c path, r =>
    ∃ x, r = .all x ∧ Chain.Settles c.source.layers (c.builtAll (.data path)) x
  | .findLocal c key, r =>
    ∃ x, r = .own x ∧ Chain.Settles [.context c.own c.order] (c.own.find key) x
  | .enlist .., r => ∃ n, r = .registered n
  | .shutdown _, r | .retire _, r => r = .closed

/-- The reply of a use that enters its context and is refused. -/
def refusal? (u : Use) : Option Reply :=
  let e := .contextShutdown u.context.id u.context.name
  match u with
  | .resolve .. | .findResource .. => some (.one (.error e))
  | .enumerate .. | .findResources .. => some (.all (.error e))
  | .findLocal .. => some (.own (.error e))
  | .enlist .. => some (.registered 0)
  | .shutdown _ | .retire _ => none

/-- What a use comes to: its thread is inside no context any more. -/
def promise (gone : List ContextId) (u : Use) (g : Visit) (r : Reply) : Prop :=
  g.inside = [] ∧ (u.context.IsGrounded gone → u.Answers r)

theorem keeps_program (gone : List ContextId) (u : Use) :
    u.program.Keeps (visiting (Attended.heldBy gone)) (u.promise gone) {} := by
  have hhosts := Visit.hosts (Attended.heldBy gone)
  cases u with
  | resolve active c id =>
    exact (c.keeps_lookup gone active (.code id)).bind fun _ _ hr =>
      .done ⟨congrArg Visit.inside hr.1, fun hc => ⟨_, rfl, hr.2 hc⟩⟩
  | enumerate active c id =>
    exact (c.keeps_lookupAll gone active (.code id)).bind fun _ _ hr =>
      .done ⟨congrArg Visit.inside hr.1, fun hc => ⟨_, rfl, hr.2 hc⟩⟩
  | findResource active c path =>
    exact (c.keeps_lookup gone active (.data path)).bind fun _ _ hr =>
      .done ⟨congrArg Visit.inside hr.1, fun hc => ⟨_, rfl, hr.2 hc⟩⟩
  | findResources active c path =>
    exact (c.keeps_lookupAll gone active (.data path)).bind fun _ _ hr =>
      .done ⟨congrArg Visit.inside hr.1, fun hc => ⟨_, rfl, hr.2 hc⟩⟩
  | findLocal c key =>
    exact (c.keeps_findLocal gone key).bind fun _ _ hr =>
      .done ⟨congrArg Visit.inside hr.1, fun _ => ⟨_, rfl, hr.2⟩⟩
  | enlist b active c =>
    exact (Bridge.restores_enlist hhosts b).keeps_bind fun n => .done ⟨rfl, fun _ => ⟨n, rfl⟩⟩
  | shutdown c =>
    exact (Visit.keeps_shutdown c rfl).bind fun _ _ hg =>
      .done ⟨congrArg Visit.inside hg, fun _ => rfl⟩
  | retire c =>
    exact (Visit.keeps_retire c rfl).bind fun _ _ hg =>
      .done ⟨congrArg Visit.inside hg, fun _ => rfl⟩

end Use

/-! ## After a refusal -/

/-- Everything is allowed, and nobody counts on entering the context. -/
def refusing (c : ContextId) : Discipline Unit where
  allows _ _ := True
  expects
    | _, .enter c', inside => c' = c → inside = false
    | _, _, _ => True
  after _ _ _ := ()

/-- A context that is not active lets nobody in. -/
theorem upholds_refusing {σ : Type} [Plugin.Backend σ] (c : ContextId) :
    (refusing c).Upholds fun _ (w : World σ) => (w.life c).state ≠ .active where
  perm _ h := h
  step {_ _ w a} h _ he := by
    refine ⟨?_, (w.turn_perform he c).ne_active h⟩
    cases a with
    | enter c' =>
      rintro rfl
      show (w.life c').enter.1 = false
      rw [Lifecycle.enter, if_neg h]
    | _ => trivial

section Refusals

variable {α : Type}

theorem Program.keeps_refusing (c : ContextId) (p : Program α) :
    p.Keeps (refusing c) (fun _ _ => True) () := by
  induction p with
  | done x => trivial
  | act a next ih => exact ⟨trivial, fun x _ => ih x⟩

theorem Holding.keeps_enter_refused (h : Holding) :
    h.enter.Keeps (refusing h.id) (fun _ r => r = .error (.contextShutdown h.id h.name)) () := by
  rw [enter_eq]
  refine .perform_bind trivial fun inside hinside => ?_
  obtain rfl : inside = false := hinside rfl
  refine .perform_bind trivial fun first _ => ?_
  cases first with
  | true => exact .perform_bind trivial fun _ _ => .done rfl
  | false => exact .done rfl

theorem Holding.keeps_within_refused (h : Holding) (body : Program (Except NamespaceError α)) :
    (h.within body).Keeps (refusing h.id)
      (fun _ r => r = .error (.contextShutdown h.id h.name)) () :=
  h.keeps_enter_refused.bind_of_eq fun _ => .done rfl

theorem Context.keeps_lookup_refused (c : Context) (active : Option String) (key : ArtifactKey) :
    (c.source.lookup active key).Keeps (refusing c.id)
      (fun _ r => r = .error (.contextShutdown c.id c.name)) () := by
  have hask : (Chain.ask (Chain.askResolver active) key c.source.layers).Keeps (refusing c.id)
      (fun _ r => r = .error (.contextShutdown c.id c.name)) () := by
    obtain ⟨own, order, behind⟩ := c
    cases order <;> exact own.keeps_within_refused _
  exact hask.bind_of_eq fun _ => .done rfl

theorem Bridge.keeps_enlist_refused (b : BridgeSettings) (active : Option String) (c : Context) :
    (enlist b active c).Keeps (refusing c.id) (fun _ n => n = 0) () :=
  c.own.keeps_enter_refused.bind_of_eq fun _ => .perform_bind trivial fun _ _ => .done rfl

/-- **A use of a context that is not active is refused.** -/
theorem Use.keeps_program_refused {u : Use} {refusal : Reply} (hu : u.refusal? = some refusal) :
    u.program.Keeps (refusing u.context.id) (fun _ r => r = refusal) () := by
  cases u with
  | resolve active c id =>
    cases hu
    exact (c.keeps_lookup_refused active (.code id)).bind_of_eq fun _ => .done rfl
  | findResource active c path =>
    cases hu
    exact (c.keeps_lookup_refused active (.data path)).bind_of_eq fun _ => .done rfl
  | enumerate active c id =>
    cases hu
    exact (c.own.keeps_within_refused _).bind_of_eq fun _ => .done rfl
  | findResources active c path =>
    cases hu
    exact (c.own.keeps_within_refused _).bind_of_eq fun _ => .done rfl
  | findLocal c key =>
    cases hu
    exact (c.own.keeps_within_refused _).bind_of_eq fun _ => .done rfl
  | enlist b active c =>
    cases hu
    exact (Bridge.keeps_enlist_refused b active c).bind_of_eq fun _ => .done rfl
  | shutdown c => cases hu
  | retire c => cases hu

end Refusals

/-! ## Many threads -/

namespace Use

variable {σ : Type} [Plugin.Backend σ] {w₀ : World σ} {t t' : List (Program Reply) × World σ}
  {ds ds' : List Deed} {uses : List Use}

/-- At first a thread has nothing to do with any context. -/
def keeper (gone : List ContextId) (u : Use) : Keeper Visit Reply :=
  ⟨{}, u.promise gone⟩

theorem kept_programs (gone : List ContextId) (uses : List Use) :
    (visiting (Attended.heldBy gone)).Kept (uses.map program) (uses.map (keeper gone)) :=
  List.forall₂_map_left_iff.2 (List.forall₂_map_right_iff.2
    (List.forall₂_same.2 fun u _ => u.keeps_program gone))

theorem note_of_keeper {gone : List ContextId} {uses : List Use} {g : Visit}
    (hg : g ∈ (uses.map (keeper gone)).map Keeper.note) : g = {} := by
  obtain ⟨k, hk, rfl⟩ := List.mem_map.1 hg
  obtain ⟨u, -, rfl⟩ := List.mem_map.1 hk
  rfl

/-- **What holds at any point of a run**: every context is as its turns tell, and every thread that
has returned has what its use promised. -/
theorem runs (hw : ∀ c, (w₀.life c).inFlight = 0)
    (hr : Program.Runs (uses.map program, w₀) ds t) :
    (∀ c, Ledger (w₀.life c).state (marks c ds) (t.2.life c)) ∧
      ∀ (i : Nat) (u : Use) (r : Reply), uses[i]? = some u → t.1[i]? = some (.done r) →
        u.context.IsGrounded w₀.gone → u.Answers r := by
  obtain ⟨ks, hkept', hpromise, -, hledger⟩ := (Attended.upholds w₀.gone).runs
    (J := fun ds w => ∀ c, Ledger (w₀.life c).state (marks c ds) (w.life c))
    (fun hj hi ha he c => hi.ledger ha he (hj c)) hr (kept_programs w₀.gone uses)
    (.of_rest hw fun _ => note_of_keeper) fun c => .of_rest (hw c)
  refine ⟨hledger, fun i u r hu hp => ?_⟩
  have hk : (ks.map Keeper.promise)[i]? = some (u.promise w₀.gone) := by
    rw [hpromise]
    simp [hu, keeper]
  obtain ⟨g, hg⟩ := hkept'.promised hp hk
  exact hg.2

/-- **Who comes after a refusal is refused.** -/
theorem runs_refused {u : Use} {refusal r : Reply} (hu : u.refusal? = some refusal)
    (hs : (t.2.life u.context.id).state ≠ .active) (hr : Program.Runs t ds t') {i : Nat}
    (hp : t.1[i]? = some u.program) (hp' : t'.1[i]? = some (.done r)) : r = refusal := by
  -- every thread that makes this use promises to be refused
  have hkept : (refusing u.context.id).Kept t.1
      (t.1.map fun p => ⟨(), fun _ r => p = u.program → r = refusal⟩) := by
    refine List.forall₂_map_right_iff.2 (List.forall₂_same.2 fun p _ => ?_)
    by_cases h : p = u.program
    · subst h
      exact (keeps_program_refused hu).imp fun _ _ hr _ => hr
    · exact (p.keeps_refusing _).imp fun _ _ _ he => absurd he h
  obtain ⟨ks', hkept', hpromise, -, -⟩ := (upholds_refusing u.context.id).runs
    (J := fun _ _ => True) (fun _ _ _ _ => trivial) hr hkept hs trivial
  have hk : (ks'.map Keeper.promise)[i]? =
      some fun _ r => u.program = u.program → r = refusal := by
    rw [hpromise, List.getElem?_map, List.getElem?_map, hp]
    rfl
  obtain ⟨-, hg⟩ := hkept'.promised hp' hk
  exact hg rfl

/-- **Resolutions and shutdowns in any order.**  At any point of a run that begins with nobody
inside a context, and at any later point:

* a context only moves forward, active, shutting down, disposed;
* those inside it are those that entered and have not left;
* once it is not active nobody enters it, as after a refusal, and whoever comes to it is refused;
* it has one first closer at most, and once that one has waited nobody is inside, nor will be;
* a resolution answers what was fixed when its chain was built, or that a context of the chain is
  shut down, if its delegates are held and are hosts or contexts. -/
theorem interleave (hw : ∀ c, (w₀.life c).inFlight = 0)
    (hr : Program.Runs (uses.map program, w₀) ds t) (hr' : Program.Runs t ds' t') :
    (∀ c,
      (t.2.life c).state.age ≤ (t'.2.life c).state.age ∧
      (t.2.life c).inFlight + (marks c ds).count .left = (marks c ds).count .entered ∧
      (.refused ∈ marks c ds → (t.2.life c).state ≠ .active) ∧
      ((t.2.life c).state ≠ .active → .entered ∉ marks c ds') ∧
      (marks c ds).count .began ≤ 1 ∧
      (.drained ∈ marks c ds → (t.2.life c).state ≠ .active ∧ (t.2.life c).inFlight = 0)) ∧
    (∀ (i : Nat) (u : Use) (refusal r : Reply), t.1[i]? = some u.program →
      u.refusal? = some refusal → (t.2.life u.context.id).state ≠ .active →
        t'.1[i]? = some (.done r) → r = refusal) ∧
    ∀ (i : Nat) (u : Use) (r : Reply), uses[i]? = some u → t.1[i]? = some (.done r) →
      u.context.IsGrounded w₀.gone → u.Answers r := by
  obtain ⟨hledger, hanswers⟩ := runs hw hr
  refine ⟨fun c => ?_, fun i u refusal r hp hu hs hp' => runs_refused hu hs hr' hp hp', hanswers⟩
  have h := hledger c
  refine ⟨hr'.age_le c, h.tally, h.refused, hr'.entered_not_mem, ?_, h.drained⟩
  rw [h.began]
  split <;> decide

/-- A context is shut down while it is asked: it still answers, and refuses whoever comes then. -/
theorem interleave_shut :
    let c : Context := ⟨⟨⟨1⟩, "orders", .ofList [(.code "a.A", .compress (.code "a.A") [7])], .raw⟩,
      .childFirst, []⟩
    let first : Use := .resolve none c "a.A"
    let found : Reply := .one (.ok ⟨.code "a.A", [7], ⟨⟨1⟩, "orders"⟩, []⟩)
    let again : Use := .enumerate none c "a.A"
    ∃ ds ds' t t', Program.Runs ([first, .shutdown c, again].map program,
        World.initial (∅ : Plugin.Directory)) ds t ∧
      (t.2.life c.id).state = .shuttingDown ∧ (t.2.life c.id).inFlight = 1 ∧
      Program.Runs t ds' t' ∧ .entered ∉ marks c.id ds' ∧
      t'.1[0]? = some (.done found) ∧ first.Answers found ∧
      t'.1[2]? = some (.done (.all (.error (.contextShutdown c.id c.name)))) ∧
      (t'.2.life c.id).state = .disposed := by
  intro c first found again
  let w₀ : World Plugin.Directory := World.initial ∅
  -- the look-up stops before it leaves, the shutdown until nobody is inside
  let shutting := Program.schedule [(0, (· matches .leave _)), (1, fun _ => false)]
    ([first, .shutdown c, again].map program, w₀)
  let settled := Program.schedule [(0, fun _ => false), (1, fun _ => false), (2, fun _ => false)]
    shutting.2
  have hr : Program.Runs _ shutting.1 shutting.2 := Program.runs_schedule _ _
  have hr' : Program.Runs _ settled.1 settled.2 := Program.runs_schedule _ _
  have hrest : ∀ c, (w₀.life c).inFlight = 0 := fun _ => rfl
  obtain ⟨hturns, hrefused, -⟩ := interleave hrest hr hr'
  obtain ⟨-, -, hanswers⟩ := interleave hrest (hr.append hr') (.stop _)
  have hs : (shutting.2.2.life c.id).state = .shuttingDown := by decide +kernel
  have hentered : .entered ∉ marks c.id settled.1 := (hturns c.id).2.2.2.1 (hs ▸ nofun)
  have hfound : settled.2.1[0]? = some (.done found) :=
    Program.getElem?_of_result (by decide +kernel)
  have hgrounded : c.IsGrounded w₀.gone := ⟨List.forall_mem_singleton.2 trivial, nofun⟩
  have hanswer : first.Answers found := hanswers 0 first found rfl hfound hgrounded
  have hlast : ∃ r, settled.2.1[2]? = some (.done r) := Program.exists_done (by decide +kernel)
  obtain ⟨r, hlast⟩ := hlast
  obtain rfl := hrefused 2 again _ r rfl rfl (hs ▸ nofun) hlast
  exact ⟨_, _, _, _, hr, hs, by decide +kernel, hr', hentered, hfound, hanswer, hlast,
    by decide +kernel⟩

end Use

end Tenancy
