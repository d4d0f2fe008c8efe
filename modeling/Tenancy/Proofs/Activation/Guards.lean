import Mathlib.Data.List.Perm.Basic
import Tenancy.Plugin.Directory
import Tenancy.Proofs.Activation.Runs

/-!
# Proofs/Activation/Guards — a guard remembers a name, not a place

    names on the stack  =  namespaces of the open guards

A thread opens guards and closes them in any order.  Whether one can be closed is decided by its
namespace, which has to be the current one; what ends then is the latest activation, whichever guard
began it.  So both sides above have the same members (`Guarded.perm_names`), but the same order only
as long as guards are closed in turn, up to guards of one namespace.  One that is closed out of turn
can go unnoticed until the others are closed (`GuardMove.current_of_guards`).
-/

namespace Tenancy

variable {σ τ : Type} [Threaded σ τ]

open Threaded (thread)

/-! ## Closing one guard -/

namespace Activation

/-- Exits a guard; `none` if that fails. -/
def exited? (name : String) (t : τ) : Option τ :=
  match pop name t with
  | (.ok _, t) => some t
  | (.error _, _) => none

/-- Drops a guard where no panic is under way; `none` if that panics. -/
def dropped? (name : String) (t : τ) : Option τ :=
  match dropGuard name (.returned ()) t with
  | (.returned (), t) => some t
  | (.panicked _, _) => none

variable {name : String} {t : τ}

/-- Dropping a guard panics where exiting it fails, and does the same otherwise. -/
theorem dropped?_eq (name : String) (t : τ) : dropped? name t = exited? name t := by
  unfold dropped? exited? dropGuard
  generalize pop name t = r
  obtain ⟨x | x, t'⟩ := r <;> rfl

/-- **All that exiting does**: it ends the latest activation, or it fails. -/
theorem exited?_cases (name : String) (t : τ) :
    (∃ n t', (thread t).stack.pop name = .ok (n, (thread t').stack) ∧ exited? name t = some t') ∨
      ∃ e, (thread t).stack.pop name = .error e ∧ exited? name t = none := by
  have hpop := pop_eq name t
  unfold exited?
  generalize pop name t = r at hpop
  obtain ⟨x, t'⟩ := r
  cases hs : (thread t).stack.pop name with
  | ok s =>
    obtain ⟨n, k⟩ := s
    rw [hs] at hpop
    obtain ⟨rfl, rfl, -⟩ := hpop
    exact .inl ⟨n, t', rfl, rfl⟩
  | error e =>
    rw [hs] at hpop
    cases hpop
    exact .inr ⟨e, rfl, rfl⟩

/-- **A guard can be closed if its namespace is the current one.** -/
theorem isSome_exited?_iff :
    (exited? name t).isSome ↔ (thread t).stack.currentName = some name := by
  rcases exited?_cases name t with ⟨n, t', hpop, hexit⟩ | ⟨e, hpop, hexit⟩
  · obtain ⟨top, rest, hstack, hname, -⟩ := ActivationStack.pop_cases hpop
    simp [hexit, hstack, ActivationStack.currentName, hname]
  · have hcurrent := ActivationStack.pop_eq_error_iff.1 hpop
    split at hcurrent
    · simp [*]
    · simp [*, hcurrent.1]

end Activation

/-! ## Moves -/

/-- A thread and the guards that it holds, each as the namespace that it closes, the latest
first. -/
structure Guarded (τ : Type) where
  state : τ
  guards : List String := []

/-- What a thread does with guards.  A guard goes by its place among the open ones, the latest being
at 0. -/
inductive GuardMove where
  | enter (c : Context)
  | drop (place : Nat)
  | exit (place : Nat)

namespace Guarded

/-- The names of all activations, the latest first. -/
def names (g : Guarded τ) : List String :=
  (thread g.state).stack.names

/-- Closes the guard at a place, in the way that is given. -/
def close (closed? : String → τ → Option τ) (place : Nat) (g : Guarded τ) : Option (Guarded τ) :=
  match g.guards[place]? with
  | some name => (closed? name g.state).map fun t => ⟨t, g.guards.eraseIdx place⟩
  | none => none

end Guarded

namespace GuardMove

/-- The move, if it goes well: there is such a guard, and closing it neither panics nor fails. -/
def perform : GuardMove → Guarded τ → Option (Guarded τ)
  | .enter c, g => some ⟨(Activation.push c g.state).2, c.name :: g.guards⟩
  | .drop place, g => g.close Activation.dropped? place
  | .exit place, g => g.close Activation.exited? place

/-- Moves in turn, as long as all of them go well. -/
def performAll : List GuardMove → Guarded τ → Option (Guarded τ)
  | [], g => some g
  | m :: ms, g => (m.perform g).bind (performAll ms)

/-- The place of the guard that is closed. -/
def place? : GuardMove → Option Nat
  | .enter _ => none
  | .drop place => some place
  | .exit place => some place

/-- The guards that are open afterwards. -/
def guardsAfter (guards : List String) : GuardMove → List String
  | .enter c => c.name :: guards
  | .drop place => guards.eraseIdx place
  | .exit place => guards.eraseIdx place

/-- **A guard is closed in turn**: all that were opened after it and are open still have its
namespace. -/
def InTurn (guards : List String) (m : GuardMove) : Prop :=
  ∀ place ∈ m.place?, ∀ name ∈ guards.take place, guards[place]? = some name

/-- Every guard is closed in turn. -/
def AllInTurn : List String → List GuardMove → Prop
  | _, [] => True
  | guards, m :: ms => m.InTurn guards ∧ AllInTurn (m.guardsAfter guards) ms

end GuardMove

/-! ## Closing by place -/

namespace Guarded

variable {g g' : Guarded τ} {place : Nat} {name : String}

theorem close_dropped? (place : Nat) (g : Guarded τ) :
    g.close Activation.dropped? place = g.close Activation.exited? place := by
  simp only [close, Activation.dropped?_eq]

theorem isSome_close_iff (h : g.guards[place]? = some name) :
    (g.close Activation.exited? place).isSome ↔
      (thread g.state).stack.currentName = some name := by
  rw [close, h, Option.isSome_map]
  exact Activation.isSome_exited?_iff

/-- A guard that is closed takes its name off both sides, from the top of one and from its place on
the other. -/
theorem close_eq_some (hs : (thread g.state).stack.Arises)
    (h : g.close Activation.exited? place = some g') :
    (thread g'.state).stack.Arises ∧ g'.guards = g.guards.eraseIdx place ∧
      ∃ name, g.guards[place]? = some name ∧ g.names = name :: g'.names := by
  unfold close at h
  split at h
  · rename_i name hname
    obtain ⟨t, ht, rfl⟩ := Option.map_eq_some_iff.1 h
    rcases Activation.exited?_cases name g.state with ⟨n, t', hpop, hexit⟩ | ⟨e, -, hexit⟩
    · obtain rfl : t' = t := Option.some.inj (hexit.symm.trans ht)
      exact ⟨hs.popped hpop, rfl, name, hname, (hs.names_pop hpop).1⟩
    · cases hexit.symm.trans ht
  · cases h

end Guarded

/-! ## The order of both sides -/

/-- Taking an item out leaves the same as taking the first, if all before it are equal to it. -/
theorem eraseIdx_eq_tail_iff {α : Type} {l : List α} {i : Nat} (hi : i < l.length) :
    l.eraseIdx i = l.tail ↔ ∀ x ∈ l.take i, l[i]? = some x := by
  induction l generalizing i with
  | nil => cases hi
  | cons a l ih =>
    cases i with
    | zero => simp
    | succ i =>
      have hi : i < l.length := Nat.lt_of_succ_lt_succ hi
      have hmore := ih hi
      simp only [List.eraseIdx_cons_succ, List.tail_cons, List.take_succ_cons,
        List.getElem?_cons_succ, List.forall_mem_cons]
      rw [← hmore]
      cases l with
      | nil => cases hi
      | cons b l =>
        have hb : (b :: l).eraseIdx i = l → (b :: l)[i]? = some b := fun h => by
          cases i with
          | zero => rfl
          | succ i => exact hmore.1 h b (by simp)
        constructor
        · intro h
          obtain ⟨rfl, h⟩ := List.cons.inj h
          exact ⟨hb h, h⟩
        · rintro ⟨ha, h⟩
          rw [Option.some.inj (ha.symm.trans (hb h))]
          exact congrArg (b :: ·) h

namespace GuardMove

variable {g g' : Guarded τ} {m : GuardMove} {ms : List GuardMove}

/-- **All that a move does**: a name comes on top of both sides, or one is taken off. -/
theorem perform_cases (hs : (thread g.state).stack.Arises) (h : m.perform g = some g') :
    (thread g'.state).stack.Arises ∧ g'.guards = m.guardsAfter g.guards ∧
      ((∃ c, m = .enter c ∧ g'.names = c.name :: g.names) ∨
        ∃ place name, m.place? = some place ∧ m.guardsAfter g.guards = g.guards.eraseIdx place ∧
          g.guards[place]? = some name ∧ g.names = name :: g'.names) := by
  have hclose : ∀ place, g.close Activation.exited? place = some g' →
      (thread g'.state).stack.Arises ∧ g'.guards = g.guards.eraseIdx place ∧
        ∃ name, g.guards[place]? = some name ∧ g.names = name :: g'.names :=
    fun place => Guarded.close_eq_some hs
  cases m with
  | enter c =>
    obtain rfl := Option.some.inj h
    have hstack := Activation.stack_push c g.state
    refine ⟨hstack ▸ hs.pushed c, rfl, .inl ⟨c, rfl, ?_⟩⟩
    simp [Guarded.names, hstack]
  | drop place =>
    rw [perform, Guarded.close_dropped?] at h
    obtain ⟨hs', hguards, name, hname, hnames⟩ := hclose place h
    exact ⟨hs', hguards, .inr ⟨place, name, rfl, rfl, hname, hnames⟩⟩
  | exit place =>
    obtain ⟨hs', hguards, name, hname, hnames⟩ := hclose place h
    exact ⟨hs', hguards, .inr ⟨place, name, rfl, rfl, hname, hnames⟩⟩

theorem isSome_perform_iff {place : Nat} {name : String} (hplace : m.place? = some place)
    (h : g.guards[place]? = some name) :
    (m.perform g).isSome ↔ (thread g.state).stack.currentName = some name := by
  cases m with
  | enter c => cases hplace
  | drop place' =>
    obtain rfl := Option.some.inj hplace
    rw [perform, Guarded.close_dropped?]
    exact Guarded.isSome_close_iff h
  | exit place' =>
    obtain rfl := Option.some.inj hplace
    exact Guarded.isSome_close_iff h

/-- Both sides keep the same members. -/
theorem perm_names_perform (hs : (thread g.state).stack.Arises) (h : m.perform g = some g')
    (hperm : g.names.Perm g.guards) : g'.names.Perm g'.guards := by
  obtain ⟨-, hguards, ⟨c, rfl, hnames⟩ | ⟨place, name, -, hafter, hname, hnames⟩⟩ :=
    perform_cases hs h
  · rw [hnames, hguards]
    exact hperm.cons _
  · obtain ⟨hplace, rfl⟩ := List.getElem?_eq_some_iff.1 hname
    rw [hguards, hafter]
    rw [hnames] at hperm
    exact (hperm.trans (List.getElem_cons_eraseIdx_perm hplace).symm).cons_inv

/-- **They keep the same order if the guard is closed in turn**, and only then. -/
theorem names_eq_guards_iff (hs : (thread g.state).stack.Arises) (h : m.perform g = some g')
    (hsame : g.names = g.guards) : g'.names = g'.guards ↔ m.InTurn g.guards := by
  obtain ⟨-, hguards, ⟨c, rfl, hnames⟩ | ⟨place, name, hplace, hafter, hname, hnames⟩⟩ :=
    perform_cases hs h
  · rw [hnames, hguards, hsame]
    exact ⟨fun _ => nofun, fun _ => rfl⟩
  · obtain ⟨hlt, -⟩ := List.getElem?_eq_some_iff.1 hname
    have htail : g'.names = g.guards.tail := by rw [← hsame, hnames, List.tail_cons]
    rw [htail, hguards, hafter, eq_comm, eraseIdx_eq_tail_iff hlt, InTurn, hplace]
    simp

/-! ## Moves in turn -/

theorem perm_names_performAll (hs : (thread g.state).stack.Arises)
    (h : performAll ms g = some g') (hperm : g.names.Perm g.guards) :
    (thread g'.state).stack.Arises ∧ g'.names.Perm g'.guards := by
  induction ms generalizing g with
  | nil =>
    obtain rfl := Option.some.inj h
    exact ⟨hs, hperm⟩
  | cons m ms ih =>
    obtain ⟨g₁, h₁, h⟩ := Option.bind_eq_some_iff.1 h
    exact ih (perform_cases hs h₁).1 h (perm_names_perform hs h₁ hperm)

/-- Both sides have the same order all the way if every guard is closed in turn, and only then. -/
theorem allInTurn_iff (hs : (thread g.state).stack.Arises) (h : performAll ms g = some g')
    (hsame : g.names = g.guards) :
    AllInTurn g.guards ms ↔
      ∀ earlier, earlier <+: ms → ∀ g₁, performAll earlier g = some g₁ → g₁.names = g₁.guards := by
  induction ms generalizing g with
  | nil =>
    refine ⟨fun _ earlier hearlier g₁ hg₁ => ?_, fun _ => trivial⟩
    obtain rfl := List.prefix_nil.1 hearlier
    obtain rfl := Option.some.inj hg₁
    exact hsame
  | cons m ms ih =>
    obtain ⟨g₁, h₁, hrest⟩ := Option.bind_eq_some_iff.1 h
    obtain ⟨hs₁, hguards, -⟩ := perform_cases hs h₁
    have hstep := names_eq_guards_iff hs h₁ hsame
    have hall : ∀ ms', performAll (m :: ms') g = performAll ms' g₁ := fun ms' => by
      rw [performAll, h₁, Option.bind_some]
    rw [AllInTurn, ← hguards]
    constructor
    · rintro ⟨hturn, hturns⟩ earlier hearlier g₂ hg₂
      cases earlier with
      | nil =>
        obtain rfl := Option.some.inj hg₂
        exact hsame
      | cons m' earlier =>
        obtain ⟨rfl, hprefix⟩ := List.cons_prefix_cons.1 hearlier
        rw [hall] at hg₂
        exact (ih hs₁ hrest (hstep.2 hturn)).1 hturns earlier hprefix g₂ hg₂
    · intro hsames
      have hsame₁ : g₁.names = g₁.guards :=
        hsames [m] (List.cons_prefix_cons.2 ⟨rfl, List.nil_prefix⟩) g₁ (hall [])
      refine ⟨hstep.1 hsame₁, (ih hs₁ hrest hsame₁).2 fun earlier hearlier g₂ hg₂ => ?_⟩
      exact hsames (m :: earlier) (List.cons_prefix_cons.2 ⟨rfl, hearlier⟩) g₂ (by rw [hall, hg₂])

/-- **Both sides have the same order if all open guards can be closed, the latest first**, and only
then. -/
theorem isSome_closeAll_iff (hs : (thread g.state).stack.Arises) (hperm : g.names.Perm g.guards) :
    (performAll (g.guards.map fun _ => .drop 0) g).isSome ↔ g.names = g.guards := by
  generalize hguards : g.guards = guards at hperm
  induction guards generalizing g with
  | nil => exact ⟨fun _ => hperm.eq_nil, fun _ => rfl⟩
  | cons name guards ih =>
    have hname : g.guards[0]? = some name := by rw [hguards]; rfl
    have hfirst := isSome_perform_iff (m := .drop 0) rfl hname
    rw [List.map_cons, performAll]
    cases h : (GuardMove.drop 0).perform g with
    | none =>
      rw [h, ← hs.head?_names] at hfirst
      refine ⟨nofun, fun hsame => absurd (hfirst.2 ?_) nofun⟩
      rw [show (thread g.state).stack.names = name :: guards from hsame, List.head?_cons]
    | some g₁ =>
      obtain ⟨hs₁, hafter, ⟨c, hm, -⟩ | ⟨place, name', hplace, -, hname', hnames⟩⟩ :=
        perform_cases hs h
      · cases hm
      · obtain rfl := Option.some.inj hplace
        obtain rfl := Option.some.inj (hname.symm.trans hname')
        have hguards₁ : g₁.guards = guards := by rw [hafter, guardsAfter, hguards]; rfl
        rw [hnames] at hperm ⊢
        rw [Option.bind_some, ih hs₁ hguards₁ hperm.cons_inv, List.cons.injEq]
        exact ⟨fun hsame => ⟨rfl, hsame⟩, And.right⟩

/-- **What the stack of a thread tells of its guards**, as long as no drop has panicked and no exit
has failed:

* the namespaces of the open guards are the names on the stack, in some order, so that the current
  one is that of some open guard, and none if all are closed;
* a guard can be closed if its namespace is the current one, and only then;
* the order is the same all the way if every guard was closed in turn, and only then; so the current
  namespace is that of the latest open guard;
* at any time it is the same if the open guards can be closed in reverse order, and only then. -/
theorem current_of_guards {t : τ} (ht : (thread t).stack = {})
    (h : performAll ms ⟨t, []⟩ = some g) :
    g.names.Perm g.guards ∧
    (∀ name, (thread g.state).stack.currentName = some name → name ∈ g.guards) ∧
    ((thread g.state).stack.currentName = none ↔ g.guards = []) ∧
    (∀ (m : GuardMove) place name, m.place? = some place → g.guards[place]? = some name →
      ((m.perform g).isSome ↔ (thread g.state).stack.currentName = some name)) ∧
    (AllInTurn [] ms ↔ ∀ earlier, earlier <+: ms → ∀ g₁, performAll earlier ⟨t, []⟩ = some g₁ →
      g₁.names = g₁.guards) ∧
    (AllInTurn [] ms → (thread g.state).stack.currentName = g.guards.head?) ∧
    ((performAll (g.guards.map fun _ => .drop 0) g).isSome ↔ g.names = g.guards) := by
  have hstart : (thread t).stack.Arises := by rw [ht]; exact .empty
  have hnames : (⟨t, []⟩ : Guarded τ).names = [] := by rw [Guarded.names, ht]; rfl
  obtain ⟨hs, hperm⟩ := perm_names_performAll hstart h (by rw [hnames])
  have horder := allInTurn_iff hstart h hnames
  rw [← hs.head?_names]
  refine ⟨hperm, fun name hname => ?_, ?_, fun m place name hplace hname => ?_, horder,
    fun hturns => ?_, isSome_closeAll_iff hs hperm⟩
  · exact hperm.subset (List.mem_of_mem_head? hname)
  · rw [List.head?_eq_none_iff]
    exact ⟨fun hnil => (hnil ▸ hperm : [].Perm g.guards).nil_eq.symm,
      fun hnil => (hnil ▸ hperm : g.names.Perm []).eq_nil⟩
  · rw [hs.head?_names]
    exact isSome_perform_iff hplace hname
  · exact congrArg List.head? (horder.1 hturns ms List.prefix_rfl g h)

/-- A context without entries. -/
def bare (number : Nat) (name : String) : Context :=
  ⟨⟨⟨number⟩, name, ∅, .raw⟩, .childFirst, []⟩

/-- Two guards of one namespace with one of another in between, of which the earliest is dropped. -/
def overtaking : List GuardMove :=
  [.enter (bare 1 "orders"), .enter (bare 2 "bills"), .enter (bare 1 "orders"), .drop 2]

def nowhere : Thread Plugin.Directory :=
  ⟨{}, .initial ∅⟩

/-- Nothing panics, and the current namespace is not that of the latest guard that is open. -/
theorem current_of_guards_overtaken :
    (performAll overtaking ⟨nowhere, []⟩).map
      (fun g => (g.guards.head?, (thread g.state).stack.currentName)) =
        some (some "orders", some "bills") := by
  decide +kernel

/-- It is noticed when the others are closed in turn. -/
theorem current_of_guards_noticed :
    ∃ g, performAll overtaking ⟨nowhere, []⟩ = some g ∧ ¬ AllInTurn [] overtaking ∧
      g.guards = ["orders", "bills"] ∧ performAll [.drop 0, .drop 0] g = none := by
  have hrun : (performAll overtaking ⟨nowhere, []⟩).map (fun g => (g.names, g.guards)) =
      some (["bills", "orders"], ["orders", "bills"]) := by decide +kernel
  obtain ⟨g, hg, hsides⟩ := Option.map_eq_some_iff.1 hrun
  obtain ⟨hnames, hguards⟩ := Prod.mk.inj hsides
  have hother : g.names ≠ ["orders", "bills"] := by rw [hnames]; decide
  obtain ⟨-, -, -, -, hturns, -, hclose⟩ := current_of_guards (t := nowhere) rfl hg
  refine ⟨g, hg, fun h => ?_, hguards, ?_⟩
  · exact hother ((hturns.1 h _ List.prefix_rfl g hg).trans hguards)
  rw [hguards, List.map_cons, List.map_cons, List.map_nil] at hclose
  exact Option.not_isSome_iff_eq_none.1 (hother ∘ hclose.1)

end GuardMove

end Tenancy
