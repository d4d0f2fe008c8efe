import Tenancy.Proofs.Context.Flights
import Tenancy.Proofs.Registry.Coherence

/-!
# Proofs/Registry/Calls — sequences of calls on a registry

A thread that uses a registry makes one call after another.  Alone it never waits, and leaves the
registry's contexts in order (`Registry.Coherent.restored`).  What a call does to the names is
decided by one action of it, in whatever world: retiring and registering plugins leave them alone
(`Registry.run_install`).
-/

namespace Tenancy

/-- Nothing is bound, and nothing has happened to an identity that is not taken. -/
structure World.Fresh {σ : Type} (w : World σ) : Prop where
  bound : w.bound = ∅
  defaultDefined : w.defaultDefined = false
  unborn : ∀ id, w.nextId ≤ id.number → w.life id = {}

theorem World.fresh_initial {σ : Type} (plugins : σ) : (World.initial plugins).Fresh :=
  ⟨rfl, rfl, fun _ _ => rfl⟩

namespace Registry

inductive Call where
  | add (name : String) (ds : List Definition)
  | addWithOrder (name : String) (ds : List Definition) (order : ResolutionOrder)
  | apply (t : Files.Tree) (c : NamespaceConfig)
  | remove (name : String)

/-- A call, whose answer tells whether anything was changed. -/
def Call.program (s : RegistrySettings) : Call → Program (Except NamespaceError Bool)
  | .add name ds => do return (← Registry.add s name ds).map fun _ => true
  | .addWithOrder name ds order => do
    return (← Registry.addWithOrder s name ds order).map fun _ => true
  | .apply t c => Registry.apply s t c
  | .remove name => do return .ok (← Registry.remove name)

/-- Calls in turn. -/
def callAll (s : RegistrySettings) : List Call → Program (List (Except NamespaceError Bool))
  | [] => return []
  | c :: cs => do
    let x ← c.program s
    let xs ← callAll s cs
    return x :: xs

variable {s : RegistrySettings} {mine : ContextId → Prop}

theorem restores_program (c : Call) : (c.program s).Restores (discipline s) .idle := by
  cases c with
  | add name ds => exact (restores_addWithOrder name ds s.defaultOrder).bind fun _ => .done _
  | addWithOrder name ds order => exact (restores_addWithOrder name ds order).bind fun _ => .done _
  | apply t c => exact restores_apply t c
  | remove name => exact (restores_remove name).bind fun _ => .done _

theorem restores_callAll (cs : List Call) : (callAll s cs).Restores (discipline s) .idle := by
  induction cs with
  | nil => exact .done _
  | cons c cs ih => exact (restores_program c).bind fun _ => ih.bind fun _ => .done _

variable {σ : Type} {w : World σ}

theorem charges_idle (n : Nat) (w : World σ) :
    charges (List.replicate n .idle) w = w.bound.values.map Context.id := by
  induction n with
  | zero => rfl
  | succ n ih => exact ih

theorem insiders_idle (n : Nat) : insiders (List.replicate n .idle) = [] := by
  induction n with
  | zero => rfl
  | succ n ih => exact ih

/-- At first the registry has no contexts, however many threads there are. -/
theorem coherent_fresh (s : RegistrySettings) (hw : w.Fresh) (n : Nat) :
    Coherent s (fun id => w.nextId ≤ id.number) (List.replicate n .idle) w where
  ahead _ hid := hid
  unborn id hid := by rw [hw.unborn id hid]
  sole := by rw [charges_idle, hw.bound]; exact List.nodup_nil
  known id hid := by rw [charges_idle, hw.bound] at hid; cases hid
  retired id hm hn := absurd hm (Nat.not_le.2 hn)
  counted id hm := by rw [hw.unborn id hm, insiders_idle]; rfl
  fits g hg := by
    obtain rfl := List.eq_of_mem_replicate hg
    exact fun _ _ h => nomatch h
  bound name c hc := by rw [hw.bound] at hc; cases hc
  default := by rw [hw.defaultDefined, hw.bound]; rfl

namespace Coherent

variable [Plugin.Backend σ]

/-- What keeps the discipline runs to its end and leaves the contexts in order. -/
theorem restored {α : Type} {p : Program α} (h : Coherent s mine [.idle] w)
    (hp : p.Restores (discipline s) .idle) :
    p.advance w = (.done (p.run w).1, (p.run w).2) ∧ Coherent s mine [.idle] (p.run w).2 := by
  obtain ⟨hadvance, g, rfl, hg⟩ := (upholds s mine).alone free hp h
  exact ⟨hadvance, hg⟩

end Coherent

/-! ## Names -/

/-- The worlds have the same names, bound to the same contexts, and no identity was taken. -/
structure SameNames (w w' : World σ) : Prop where
  nextId : w'.nextId = w.nextId
  bound : w'.bound = w.bound

variable [Plugin.Backend σ]

theorem SameNames.perform {w' : World σ} {a : Action} (ha : a.IsQuiet) (h : SameNames w w') :
    SameNames w (w'.perform a).2 := by
  cases a with
  | allocate => exact ha.elim
  | bind name c => exact ha.elim
  | unbind name => exact ha.elim
  | _ => exact ⟨h.nextId, h.bound⟩

/-- What leaves the names alone leaves them as they are. -/
theorem SameNames.run {α : Type} {p : Program α} (hp : p.Only Action.IsQuiet) (w : World σ) :
    SameNames w (p.run w).2 :=
  hp.preserves .perform ⟨rfl, rfl⟩

/-- So does a thread that only visits and closes contexts. -/
theorem only_quiet {α : Type} {p : Program α} {post : Visit → α → Prop} {g : Visit}
    (hp : p.Keeps (visiting fun _ _ => True) post g) : p.Only Action.IsQuiet := by
  refine .of_keeps (fun _ a _ => ?_) (fun _ a ha => ?_) hp
  · cases a <;> trivial
  · cases a <;> trivial

theorem only_reportAll {P : Action → Prop} (hP : ∀ e, P (.report e)) (es : List Event) :
    (reportAll es).Only P := by
  induction es with
  | nil => trivial
  | cons e es ih => exact ⟨hP e, fun _ => ih⟩

theorem only_retire (c : Context) : (retire c).Only Action.IsQuiet :=
  only_quiet (Visit.keeps_retire (g := {}) c rfl)

theorem only_settle (previous : Option Context) (c : Context) :
    (settle s previous c).Only Action.IsQuiet := by
  have henlist : (Bridge.enlist s.bridge none c).Only Action.IsQuiet :=
    only_quiet (Bridge.restores_enlist (g := {}) (Visit.hosts _) s.bridge)
  refine .bind ?_ fun _ => henlist.bind fun _ => trivial
  cases previous with
  | none => trivial
  | some p => exact only_retire p

/-- **Installing binds the name**, under the next identity. -/
theorem run_install (s : RegistrySettings) (name : String) (entries : ArtifactMap)
    (order : ResolutionOrder) (w : World σ) :
    ((install s name entries order).run w).2.nextId = w.nextId + 1 ∧
      ((install s name entries order).run w).2.bound =
        w.bound.insert name (contextOf s ⟨w.nextId⟩ name entries order) := by
  obtain ⟨e, he⟩ := install_eq s name entries order
  rw [he]
  have hsame := fun w' : World σ => SameNames.run
    (only_settle (s := s) (w.bound.get? name) (contextOf s ⟨w.nextId⟩ name entries order)) w'
  exact ⟨(hsame _).nextId, (hsame _).bound⟩

theorem perform_unbind_none (w : World σ) {name : String} (hp : w.bound.get? name = none) :
    w.perform (.unbind name) = (none, w) := by
  simp only [World.perform, hp, Table.erase_eq_self hp, Option.isSome_none, Bool.and_false,
    Bool.false_eq_true, if_false]

/-- **Removing unbinds the name**, if it is bound. -/
theorem run_remove (name : String) (w : World σ) :
    let r := (remove name).run w
    r.1 = w.bound.contains name ∧ r.2.nextId = w.nextId ∧ r.2.bound = w.bound.erase name ∧
      (w.bound.contains name = false → r.2 = w) := by
  obtain ⟨e, he⟩ := remove_eq name
  rw [he, Program.run_act]
  cases hp : w.bound.get? name with
  | none =>
    rw [perform_unbind_none w hp, Table.contains, hp, Table.erase_eq_self hp]
    exact ⟨rfl, rfl, rfl, fun _ => rfl⟩
  | some c =>
    have hanswer : (w.perform (.unbind name)).1 = some c := hp
    have hsame := fun w' : World σ => SameNames.run (only_retire c) w'
    rw [hanswer, Table.contains, hp, Option.elim_some, Program.run_act, Program.run_bind]
    exact ⟨rfl, (hsame _).nextId, (hsame _).bound, fun hunbound => absurd hunbound (by simp)⟩

/-- What leaves the names alone leaves them as they are, and the contexts in order. -/
theorem Coherent.quiet {α : Type} {p : Program α} {g : Duty} {post : Duty → α → Prop}
    (h : Coherent s mine [g] w) (hp : p.Keeps (quietly s) post g) :
    SameNames w (p.run w).2 ∧ ∃ g', post g' (p.run w).1 ∧ Coherent s mine [g'] (p.run w).2 := by
  obtain ⟨-, g', hpost, h', hnames⟩ := ((upholds s mine).restrict (F := SameNames w) .perform).alone
    (fun hi ha => hi.1.free ha.2) hp ⟨h, rfl, rfl⟩
  exact ⟨hnames, g', hpost, h'⟩

/-! ## Many threads -/

/-- What a thread keeps to until its calls have returned. -/
abbrev KeepsOn {α : Type} (s : RegistrySettings) (p : Program α) (g : Duty) : Prop :=
  p.Keeps (discipline s) (fun g' _ => g' = .idle) g

theorem keepsOn_callAll (s : RegistrySettings) (threads : List (List Call)) :
    List.Forall₂ (KeepsOn s) (threads.map (callAll s)) (List.replicate threads.length .idle) := by
  induction threads with
  | nil => exact .nil
  | cons cs threads ih => exact .cons (restores_callAll cs) ih

variable {α : Type} {ps : List (Program α)} {gs : List Duty}

/-- A thread that has returned is responsible for nothing. -/
theorem idle_of_done (hk : List.Forall₂ (KeepsOn s) ps gs) (hd : ∀ p ∈ ps, p.isDone = true) :
    gs = List.replicate ps.length .idle := by
  induction hk with
  | nil => rfl
  | @cons p g ps gs hp _ ih =>
    obtain ⟨hdone, hrest⟩ := List.forall_mem_cons.1 hd
    cases p with
    | done x =>
      rw [ih hrest, show g = .idle from hp]
      rfl
    | act a next => cases hdone

theorem step_of_enabled {a : Action} {next : a.Answer → Program α} (hp : .act a next ∈ ps)
    (he : w.Enabled a) : ∃ t, Program.Step (ps, w) t := by
  obtain ⟨before, rest, rfl⟩ := List.append_of_mem hp
  exact ⟨_, .act before rest a next w he⟩

/-- **Some thread can go on**, unless all have returned: a thread that waits is inside no context,
so that whoever it waits for need not. -/
theorem progress (h : Coherent s mine gs w) (hk : List.Forall₂ (KeepsOn s) ps gs)
    (hp : ∃ p ∈ ps, p.isDone = false) : ∃ t, Program.Step (ps, w) t := by
  obtain ⟨p, hp, hdone⟩ := hp
  obtain ⟨g, hg, hkeeps⟩ := Discipline.exists_beside hk hp
  cases p with
  | done x => cases hdone
  | act a next =>
    by_cases he : w.Enabled a
    · exact step_of_enabled hp he
    cases a with
    | awaitDrained c =>
      obtain ⟨hc, -⟩ := hkeeps.1
      have hm : mine c := (h.known c (mem_charges_of_mem hg w (Duty.mem_charges hc))).1
      have hinside : c ∈ insiders gs := by
        by_contra hnot
        exact he ((h.counted c hm).trans (List.count_eq_zero.2 hnot))
      obtain ⟨g', hg', hin⟩ := List.mem_flatMap.1 hinside
      obtain ⟨p', hp', hkeeps'⟩ := Discipline.exists_beside hk.flip hg'
      cases p' with
      | done x =>
        rw [show g' = .idle from hkeeps'] at hin
        cases hin
      | act a' next' =>
        refine step_of_enabled hp' ?_
        cases a' with
        | awaitDrained c' =>
          rw [hkeeps'.1.2] at hin
          cases hin
        | _ => exact trivial
    | _ => exact absurd trivial he

end Registry

end Tenancy
