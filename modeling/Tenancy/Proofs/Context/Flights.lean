import Tenancy.Proofs.Context.Lifecycle
import Tenancy.Proofs.Context.Visiting
import Tenancy.Registry.Basic

/-!
# Proofs/Context/Flights — who is inside a context while it is retired

Of all that threads do, a context sees its own turns only: somebody enters it or is refused, leaves
it, begins to close it or finds it closed, has waited until nobody was inside, disposes of it
(`Lifecycle.Turn`).  However the turns are mixed,

    inside it now  +  left so far  =  entered so far

and its first closer, once it has waited, leaves nobody inside, for good (`Ledger`).
-/

namespace Tenancy

open Program (perform)

/-! ## The turns of a context -/

/-- What happens to a context. -/
inductive Mark where
  | entered
  | refused
  | left
  /-- Somebody is the first to close it. -/
  | began
  /-- Somebody else was before. -/
  | foundShut
  /-- The first closer has waited until nobody was inside. -/
  | drained
  | finished
  deriving DecidableEq

/-- What a deed means to the context, if it concerns it. -/
def Deed.mark? (c : ContextId) : Deed → Option Mark
  | ⟨.enter c', inside⟩ => if c' = c then some (if inside then .entered else .refused) else none
  | ⟨.leave c', _⟩ => if c' = c then some .left else none
  | ⟨.beginClose c', inFlight⟩ =>
    if c' = c then some (if inFlight.isSome then .began else .foundShut) else none
  | ⟨.awaitDrained c', _⟩ => if c' = c then some .drained else none
  | ⟨.finishClose c', _⟩ => if c' = c then some .finished else none
  | _ => none

/-- What is done when this happens to the context. -/
def Mark.action (c : ContextId) : Mark → Action
  | .entered | .refused => .enter c
  | .left => .leave c
  | .began | .foundShut => .beginClose c
  | .drained => .awaitDrained c
  | .finished => .finishClose c

theorem Deed.action_eq {c : ContextId} {a : Action} {x : a.Answer} {m : Mark}
    (h : Deed.mark? c ⟨a, x⟩ = some m) : a = m.action c := by
  cases a with
  | enter c' =>
    obtain ⟨rfl, hm⟩ := Option.ite_none_right_eq_some.1 h
    cases x <;> cases hm <;> rfl
  | beginClose c' =>
    obtain ⟨rfl, hm⟩ := Option.ite_none_right_eq_some.1 h
    cases x <;> cases hm <;> rfl
  | leave c' | awaitDrained c' | finishClose c' =>
    obtain ⟨rfl, hm⟩ := Option.ite_none_right_eq_some.1 h
    cases hm
    rfl
  | _ => cases h

/-- How many are inside after a turn, of so many before. -/
def Mark.tally : Option Mark → Nat → Nat
  | some .entered, n => n + 1
  | some .left, n => n - 1
  | _, n => n

theorem Mark.tally_add {m : Option Mark} {n : Nat} (h : m = some .left → 0 < n) (k : Nat) :
    tally m (n + k) = tally m n + k := by
  unfold tally
  split
  · omega
  · have hn := h rfl
    omega
  · rfl

/-- What has happened to the context in a run. -/
def marks (c : ContextId) (ds : List Deed) : List Mark :=
  ds.filterMap (Deed.mark? c)

namespace Lifecycle

/-- **How each turn finds the context and leaves it.** -/
inductive Turn : Option Mark → Lifecycle → Lifecycle → Prop
  | other {l l' : Lifecycle} (hs : l'.state = l.state) (hf : l'.inFlight = l.inFlight) :
      Turn none l l'
  | entered {l : Lifecycle} (h : l.state = .active) :
      Turn (some .entered) l { l with inFlight := l.inFlight + 1 }
  | refused {l : Lifecycle} (h : l.state ≠ .active) : Turn (some .refused) l l
  | left {l : Lifecycle} : Turn (some .left) l l.leave
  | began {l : Lifecycle} (h : l.state = .active) :
      Turn (some .began) l { l with state := .shuttingDown }
  | foundShut {l : Lifecycle} (h : l.state ≠ .active) : Turn (some .foundShut) l l
  | drained {l : Lifecycle} (h : l.inFlight = 0) : Turn (some .drained) l l
  | finished {l : Lifecycle} : Turn (some .finished) l { l with state := .disposed }

namespace Turn

variable {m : Option Mark} {l l' : Lifecycle}

/-- No turn makes the context younger. -/
theorem age_le (h : Turn m l l') : l.state.age ≤ l'.state.age := by
  cases h with
  | other hs hf => exact Nat.le_of_eq (congrArg ContextState.age hs.symm)
  | began h => rw [h]; exact Nat.zero_le _
  | finished => exact l.state.age_le_disposed
  | _ => exact Nat.le_refl _

theorem ne_active (h : Turn m l l') (hl : l.state ≠ .active) : l'.state ≠ .active := by
  rw [ContextState.ne_active_iff] at hl ⊢
  exact Nat.lt_of_lt_of_le hl h.age_le

/-- Nobody enters a context that is not active, and nobody begins to close it. -/
theorem of_ne_active (h : Turn m l l') (hl : l.state ≠ .active) :
    m ≠ some .entered ∧ m ≠ some .began := by
  cases h with
  | entered h => exact absurd h hl
  | began h => exact absurd h hl
  | _ => exact ⟨nofun, nofun⟩

/-- Who was refused or began to close a context, or found it closed, knows that it is not active. -/
theorem ne_active_of_mark {m : Mark} (h : Turn (some m) l l')
    (hm : m = .refused ∨ m = .began ∨ m = .foundShut) : l'.state ≠ .active := by
  cases h with
  | refused h => exact h
  | began h => exact nofun
  | foundShut h => exact h
  | _ => simp at hm

/-- Only its last turn disposes of a context. -/
theorem disposed (h : Turn m l l') (hl' : l'.state = .disposed) :
    l.state = .disposed ∨ m = some .finished := by
  cases h with
  | other hs hf => exact .inl (hs ▸ hl')
  | began h => cases hl'
  | finished => exact .inr rfl
  | _ => exact .inl hl'

theorem inFlight_eq (h : Turn m l l') : l'.inFlight = Mark.tally m l.inFlight := by
  cases h with
  | other hs hf => exact hf
  | _ => rfl

/-- A context that is not active fills no more. -/
theorem inFlight_eq_zero (h : Turn m l l') (hl : l.state ≠ .active) (hf : l.inFlight = 0) :
    l'.inFlight = 0 := by
  rw [h.inFlight_eq, hf]
  cases h with
  | entered h => exact absurd h hl
  | _ => rfl

end Turn

theorem turn_enter (l : Lifecycle) :
    l.Turn (some (if l.enter.1 then .entered else .refused)) l.enter.2 := by
  rw [enter]
  split
  · rename_i h
    exact .entered h
  · rename_i h
    exact .refused h

theorem turn_beginClose (l : Lifecycle) :
    l.Turn (some (if l.beginClose.1.isSome then .began else .foundShut)) l.beginClose.2 := by
  rw [beginClose]
  split
  · rename_i h
    exact .began h
  · rename_i h
    exact .foundShut h

end Lifecycle

namespace World

variable {σ : Type}

theorem turn_withLife (w : World σ) {c c' : ContextId} {m : Mark} {l : Lifecycle}
    (h : (w.life c').Turn (some m) l) :
    (w.life c).Turn (if c' = c then some m else none) ((w.withLife c' l).life c) := by
  split
  · rename_i hc
    subst hc
    rwa [life_withLife_self]
  · rename_i hc
    rw [life_withLife_ne w l (Ne.symm hc)]
    exact .other rfl rfl

/-- **Each deed is a turn of the context**, or does not concern it. -/
theorem turn_perform [Plugin.Backend σ] (w : World σ) {a : Action} (he : w.Enabled a)
    (c : ContextId) :
    (w.life c).Turn (Deed.mark? c ⟨a, (w.perform a).1⟩) ((w.perform a).2.life c) := by
  cases a with
  | enter c' => exact w.turn_withLife (w.life c').turn_enter
  | leave c' => exact w.turn_withLife .left
  | beginClose c' => exact w.turn_withLife (w.life c').turn_beginClose
  | finishClose c' => exact w.turn_withLife .finished
  | refuse c' =>
    have hcalm : w.Calm (w.withLife c' (w.life c').refuse.2) := .withLife rfl rfl
    exact .other (hcalm.state c) (hcalm.inFlight c)
  | awaitDrained c' =>
    by_cases hc : c' = c
    · subst hc
      rw [Deed.mark?, if_pos rfl]
      exact .drained he
    · rw [Deed.mark?, if_neg hc]
      exact .other rfl rfl
  | _ => exact .other rfl rfl

end World

/-! ## What threads note -/

/-- What a thread has to do with contexts. -/
structure Visit where
  /-- The contexts that it has entered, the latest first. -/
  inside : List ContextId := []
  /-- The contexts that it began to close or found closed. -/
  shut : List ContextId := []
  /-- The context that it waits for, being its first closer. -/
  waits : Option ContextId := none

namespace Visit

def enters (g : Visit) (c : ContextId) : Visit := { g with inside := c :: g.inside }

def shuts (g : Visit) (c : ContextId) : Visit := { g with shut := c :: g.shut }

def allows (g : Visit) : Action → Prop
  | .allocate | .bind .. | .unbind _ => False
  | .leave c => c ∈ g.inside
  | .register r => r.owner ∈ g.inside
  | .beginClose _ => g.waits = none
  | .awaitDrained c => g.waits = some c
  | .finishClose c => c ∈ g.shut ∧ g.waits = none
  | _ => True

def after (g : Visit) : (a : Action) → a.Answer → Visit
  | .enter c, true => g.enters c
  | .leave c, _ => { g with inside := g.inside.erase c }
  | .beginClose c, some _ => { g.shuts c with waits := some c }
  | .beginClose c, none => g.shuts c
  | .awaitDrained _, _ => { g with waits := none }
  | _, _ => g

end Visit

/-- **What look-ups and closers keep to.**  Of the answers they count at most on those that tell
whether a source is held. -/
def visiting (E : ContextId → Bool → Prop) : Discipline Visit where
  allows := Visit.allows
  expects
    | _, .isHeld c, held => E c held
    | _, _, _ => True
  after := Visit.after

namespace Visit

variable {E : ContextId → Bool → Prop} {g : Visit}

theorem hosts (E : ContextId → Bool → Prop) : (visiting E).Hosts enters where
  report _ _ := ⟨trivial, fun _ => rfl⟩
  refuse _ _ := ⟨trivial, fun _ => rfl⟩
  isHeld _ _ := ⟨trivial, fun _ => rfl⟩
  boundTo _ _ := ⟨trivial, fun _ => rfl⟩
  enter _ _ := ⟨trivial, rfl, rfl⟩
  leave g _ := ⟨List.mem_cons_self,
    fun _ => congrArg (fun l => { g with inside := l }) (List.erase_cons_head ..)⟩
  register _ _ := ⟨List.mem_cons_self, fun _ => rfl⟩

/-- Whoever has begun to close a context has found it closed, or has waited until it is empty. -/
theorem keeps_beginShutdown (c : Context) (hg : g.waits = none) :
    c.beginShutdown.Keeps (visiting E) (fun g' _ => g' = g.shuts c.id) g := by
  refine .perform_bind hg fun inFlight _ => ?_
  cases inFlight with
  | none => exact .done rfl
  | some n =>
    refine ((hosts E).restores_report _).keeps_bind fun _ => .perform_bind rfl fun _ _ => .done ?_
    exact congrArg (fun waits => { g.shuts c.id with waits }) hg.symm

theorem restores_finishShutdown (c : Context) (hc : c.id ∈ g.shut) (hg : g.waits = none) :
    c.finishShutdown.Restores (visiting E) g := by
  refine .perform_bind ⟨hc, hg⟩ fun first _ => ?_
  cases first with
  | true => exact (hosts E).restores_report _
  | false => exact .done rfl

theorem keeps_shutdown (c : Context) (hg : g.waits = none) :
    c.shutdown.Keeps (visiting E) (fun g' _ => g' = g.shuts c.id) g := by
  refine (keeps_beginShutdown c hg).bind fun g' _ hg' => ?_
  rw [hg']
  exact restores_finishShutdown c List.mem_cons_self hg

theorem restores_removeOwned (owner : ContextId) (name : String) (listed : List Plugin.Listing) :
    (Bridge.removeOwned owner name listed).Restores (visiting E) g := by
  have hreport := (hosts E).restores_report (g := g)
  induction listed with
  | nil => exact .done _
  | cons e es ih =>
    rw [Bridge.removeOwned]
    split
    · refine .perform_bind trivial fun answer _ => ?_
      cases answer with
      | ok _ => exact (hreport _).bind fun _ => ih.bind fun _ => .done _
      | error _ => exact (hreport _).bind fun _ => ih
    · exact ih

theorem keeps_retire (c : Context) (hg : g.waits = none) :
    (Registry.retire c).Keeps (visiting E) (fun g' _ => g' = g.shuts c.id) g := by
  refine (keeps_beginShutdown c hg).bind fun g' _ hg' => ?_
  rw [hg']
  have hcleanup : (Bridge.cleanup c.id c.name).Restores (visiting E) (g.shuts c.id) :=
    .perform_bind trivial fun listed _ => restores_removeOwned c.id c.name listed
  have hfinish : c.finishShutdown.Restores (visiting E) (g.shuts c.id) :=
    restores_finishShutdown c List.mem_cons_self hg
  exact hcleanup.bind fun _ => hfinish.bind fun _ => (hosts E).restores_report _

/-- A deed changes the number of times that a thread is inside a context as it changes the number of
those inside. -/
theorem count_after (g : Visit) (a : Action) (x : a.Answer) (c : ContextId) :
    (g.after a x).inside.count c = Mark.tally (Deed.mark? c ⟨a, x⟩) (g.inside.count c) := by
  cases a with
  | enter c' =>
    cases x <;> by_cases hc : c' = c <;>
      simp [after, enters, Deed.mark?, Mark.tally, hc]
  | leave c' => by_cases hc : c' = c <;> simp [after, Deed.mark?, Mark.tally, hc, List.count_erase]
  | beginClose c' =>
    cases x <;> by_cases hc : c' = c <;> simp [after, shuts, Deed.mark?, Mark.tally, hc]
  | awaitDrained c' => by_cases hc : c' = c <;> simp [after, Deed.mark?, Mark.tally, hc]
  | finishClose c' => by_cases hc : c' = c <;> simp [after, Deed.mark?, Mark.tally, hc]
  | _ => rfl

/-- Who leaves a context is inside it. -/
theorem mem_inside_of_left {g : Visit} {a : Action} {x : a.Answer} {c : ContextId}
    (ha : g.allows a) (hm : Deed.mark? c ⟨a, x⟩ = some .left) : c ∈ g.inside := by
  obtain rfl : a = .leave c := Deed.action_eq hm
  exact ha

/-- Who has waited for a context to be empty is its first closer. -/
theorem waits_of_drained {g : Visit} {a : Action} {x : a.Answer} {c : ContextId}
    (ha : g.allows a) (hm : Deed.mark? c ⟨a, x⟩ = some .drained) : g.waits = some c := by
  obtain rfl : a = .awaitDrained c := Deed.action_eq hm
  exact ha

/-- Who disposes of a context has shut it, and waits for none. -/
theorem shut_of_finished {g : Visit} {a : Action} {x : a.Answer} {c : ContextId}
    (ha : g.allows a) (hm : Deed.mark? c ⟨a, x⟩ = some .finished) :
    c ∈ g.shut ∧ g.waits = none := by
  obtain rfl : a = .finishClose c := Deed.action_eq hm
  exact ha

/-- What a thread has newly shut it began to close or found closed just now. -/
theorem mem_shut_after {g : Visit} {a : Action} {x : a.Answer} {c : ContextId}
    (h : c ∈ (g.after a x).shut) : c ∈ g.shut ∨
      Deed.mark? c ⟨a, x⟩ = some .began ∨ Deed.mark? c ⟨a, x⟩ = some .foundShut := by
  cases a with
  | enter c' => cases x <;> exact .inl h
  | beginClose c' =>
    cases x with
    | none =>
      rcases List.mem_cons.1 h with rfl | h
      · exact .inr (.inr (if_pos rfl))
      · exact .inl h
    | some n =>
      rcases List.mem_cons.1 h with rfl | h
      · exact .inr (.inl (if_pos rfl))
      · exact .inl h
  | _ => exact .inl h

theorem mem_shut_of_waits_after {g : Visit} {a : Action} {x : a.Answer}
    (hg : ∀ c, g.waits = some c → c ∈ g.shut) {c : ContextId} (h : (g.after a x).waits = some c) :
    c ∈ (g.after a x).shut := by
  cases a with
  | enter c' => cases x <;> exact hg c h
  | beginClose c' =>
    cases x with
    | none => exact List.mem_cons_of_mem _ (hg c h)
    | some n =>
      cases h
      exact List.mem_cons_self
  | awaitDrained c' => cases h
  | _ => exact hg c h

end Visit

/-! ## What they keep up -/

variable {σ : Type} {gone : List ContextId} {gs others : List Visit} {g : Visit} {w : World σ}

/-- **Those inside are counted**, and nobody disposes of a context that is in use. -/
structure Attended (gone : List ContextId) (gs : List Visit) (w : World σ) : Prop where
  counted : ∀ c, (w.life c).inFlight = (gs.flatMap Visit.inside).count c
  shut : ∀ g ∈ gs, ∀ c ∈ g.shut, (w.life c).state ≠ .active
  waits : ∀ g ∈ gs, ∀ c, g.waits = some c → c ∈ g.shut
  gone : w.gone = gone

namespace Attended

theorem perm (hp : gs.Perm others) (h : Attended gone gs w) : Attended gone others w where
  counted c := (h.counted c).trans ((hp.flatMap_right _).count_eq c)
  shut g hg := h.shut g (hp.mem_iff.2 hg)
  waits g hg := h.waits g (hp.mem_iff.2 hg)
  gone := h.gone

theorem step [Plugin.Backend σ] (h : Attended gone (g :: others) w) {a : Action} (ha : g.allows a)
    (he : w.Enabled a) : Attended gone (g.after a (w.perform a).1 :: others) (w.perform a).2 where
  counted c := by
    have hcounted := h.counted c
    rw [List.flatMap_cons, List.count_append] at hcounted ⊢
    rw [(w.turn_perform he c).inFlight_eq, hcounted, Visit.count_after,
      Mark.tally_add fun hm => List.count_pos_iff.2 (Visit.mem_inside_of_left ha hm)]
  shut g' hg' c hc := by
    have hturn := w.turn_perform he c
    rcases List.mem_cons.1 hg' with rfl | hg'
    · rcases Visit.mem_shut_after hc with hc | hmark | hmark
      · exact hturn.ne_active (h.shut g List.mem_cons_self c hc)
      · exact (hmark ▸ hturn).ne_active_of_mark (.inr (.inl rfl))
      · exact (hmark ▸ hturn).ne_active_of_mark (.inr (.inr rfl))
    · exact hturn.ne_active (h.shut g' (List.mem_cons_of_mem _ hg') c hc)
  waits g' hg' c hc := by
    rcases List.mem_cons.1 hg' with rfl | hg'
    · exact Visit.mem_shut_of_waits_after (h.waits g List.mem_cons_self) hc
    · exact h.waits g' (List.mem_cons_of_mem _ hg') c hc
  gone := by
    rw [← h.gone]
    cases a <;> rfl

/-- What a thread can count on about held sources, when nobody lets go of any. -/
def heldBy (gone : List ContextId) (c : ContextId) (held : Bool) : Prop :=
  held = !gone.contains c

theorem upholds [Plugin.Backend σ] (gone : List ContextId) :
    (visiting (heldBy gone)).Upholds fun gs (w : World σ) => Attended gone gs w where
  perm hp h := h.perm hp
  step h ha he := by
    refine ⟨?_, h.step ha he⟩
    rename_i a
    cases a with
    | isHeld c => exact congrArg (fun gone => !List.contains gone c) h.gone
    | _ => trivial

/-- At first nobody is inside a context, and nobody has closed one. -/
theorem of_rest (hw : ∀ c, (w.life c).inFlight = 0) (hgs : ∀ g ∈ gs, g = {}) :
    Attended w.gone gs w where
  counted c := by
    have hnone : gs.flatMap Visit.inside = [] :=
      List.flatMap_eq_nil_iff.2 fun g hg => congrArg Visit.inside (hgs g hg)
    rw [hw c, hnone]
    rfl
  shut g hg c hc := by
    obtain rfl := hgs g hg
    cases hc
  waits g hg c hc := by
    obtain rfl := hgs g hg
    cases hc
  gone := rfl

/-- Nobody disposes of a context, or has waited for it to be empty, before it is closed. -/
theorem ne_active (h : Attended gone (g :: others) w) {a : Action} {x : a.Answer} {c : ContextId}
    (ha : g.allows a)
    (hm : Deed.mark? c ⟨a, x⟩ = some .drained ∨ Deed.mark? c ⟨a, x⟩ = some .finished) :
    (w.life c).state ≠ .active := by
  rcases hm with hm | hm
  · exact h.shut g List.mem_cons_self c
      (h.waits g List.mem_cons_self c (Visit.waits_of_drained ha hm))
  · exact h.shut g List.mem_cons_self c (Visit.shut_of_finished ha hm).1

/-- A context that somebody is inside is in use. -/
theorem inFlight_pos (h : Attended gone (g :: others) w) {c : ContextId} (hc : c ∈ g.inside) :
    0 < (w.life c).inFlight := by
  rw [h.counted c, List.flatMap_cons, List.count_append]
  exact Nat.add_pos_left (List.count_pos_iff.2 hc) _

end Attended

/-! ## What a trace tells -/

/-- **What the turns of a context say about it**, which began in the state `s₀` with nobody
inside. -/
structure Ledger (s₀ : ContextState) (ms : List Mark) (l : Lifecycle) : Prop where
  tally : l.inFlight + ms.count .left = ms.count .entered
  first : l.state = .active → s₀ = .active
  refused : .refused ∈ ms → l.state ≠ .active
  /-- A context that was active and is not any more has one first closer, others have none. -/
  began : ms.count .began = if s₀ = .active ∧ l.state ≠ .active then 1 else 0
  drained : .drained ∈ ms → l.state ≠ .active ∧ l.inFlight = 0

namespace Ledger

variable {s₀ : ContextState} {ms : List Mark} {m : Option Mark} {l l' : Lifecycle}

theorem of_rest (hl : l.inFlight = 0) : Ledger l.state [] l where
  tally := hl
  first h := h
  refused h := nomatch h
  began := (if_neg fun h => h.2 h.1).symm
  drained h := nomatch h

theorem tally_turn (h : Ledger s₀ ms l) (ht : l.Turn m l')
    (hleft : m = some .left → 0 < l.inFlight) :
    l'.inFlight + (ms ++ m.toList).count .left = (ms ++ m.toList).count .entered := by
  have htally := h.tally
  cases ht with
  | other hs hf => simpa [hf] using htally
  | left =>
    have hpos := hleft rfl
    simp [Lifecycle.leave]
    omega
  | _ =>
    simp
    omega

theorem began_turn (h : Ledger s₀ ms l) (ht : l.Turn m l')
    (hfinished : m = some .finished → l.state ≠ .active) :
    (ms ++ m.toList).count .began = if s₀ = .active ∧ l'.state ≠ .active then 1 else 0 := by
  have hbegan := h.began
  cases ht with
  | began hl =>
    rw [if_neg fun hs => hs.2 hl] at hbegan
    simp [hbegan, h.first hl]
  | finished => simpa [hfinished rfl] using hbegan
  | other hs hf => simpa [hs] using hbegan
  | left =>
    change _ = if s₀ = .active ∧ l.state ≠ .active then 1 else 0
    simpa using hbegan
  | _ => simpa using hbegan

/-- **The next turn**, if nobody leaves who is not inside and nobody disposes of a context that is
in use. -/
theorem turn (h : Ledger s₀ ms l) (ht : l.Turn m l') (hleft : m = some .left → 0 < l.inFlight)
    (hclosed : m = some .drained ∨ m = some .finished → l.state ≠ .active) :
    Ledger s₀ (ms ++ m.toList) l' where
  tally := h.tally_turn ht hleft
  first hl' := h.first (by_contra fun hl => ht.ne_active hl hl')
  refused hm := by
    rcases List.mem_append.1 hm with hm | hm
    · exact ht.ne_active (h.refused hm)
    · obtain rfl := Option.mem_toList.1 hm
      exact ht.ne_active_of_mark (.inl rfl)
  began := h.began_turn ht fun hm => hclosed (.inr hm)
  drained hm := by
    rcases List.mem_append.1 hm with hm | hm
    · obtain ⟨hl, hf⟩ := h.drained hm
      exact ⟨ht.ne_active hl, ht.inFlight_eq_zero hl hf⟩
    · obtain rfl := Option.mem_toList.1 hm
      have hl := hclosed (.inl rfl)
      cases ht with
      | drained hf => exact ⟨hl, hf⟩

end Ledger

theorem marks_concat (c : ContextId) (ds : List Deed) (d : Deed) :
    marks c (ds ++ [d]) = marks c ds ++ (Deed.mark? c d).toList := by
  rw [marks, List.filterMap_append]
  cases h : Deed.mark? c d <;> simp [h, marks]

/-- What the turns say stays right with every deed that is allowed. -/
theorem Attended.ledger [Plugin.Backend σ] (h : Attended gone (g :: others) w) {a : Action}
    (ha : g.allows a) (he : w.Enabled a) {c : ContextId} {s₀ : ContextState} {ds : List Deed}
    (hl : Ledger s₀ (marks c ds) (w.life c)) :
    Ledger s₀ (marks c (ds ++ [⟨a, (w.perform a).1⟩])) ((w.perform a).2.life c) := by
  rw [marks_concat]
  exact hl.turn (w.turn_perform he c) (fun hm => h.inFlight_pos (Visit.mem_inside_of_left ha hm))
    fun hm => h.ne_active ha hm

namespace Program.Runs

variable [Plugin.Backend σ] {α : Type} {t t' : List (Program α) × World σ} {ds : List Deed}

/-- **No run makes a context younger.** -/
theorem age_le (h : Runs t ds t') (c : ContextId) :
    (t.2.life c).state.age ≤ (t'.2.life c).state.age :=
  h.preserves (F := fun w => (t.2.life c).state.age ≤ (w.life c).state.age)
    (fun {w _} hage he => Nat.le_trans hage (w.turn_perform he c).age_le) (Nat.le_refl _)

/-- A context that somebody was refused by, or found closed, or began to close, is not active. -/
theorem ne_active_of_mem (h : Runs t ds t') {c : ContextId} {m : Mark} (hmem : m ∈ marks c ds)
    (hm : m = .refused ∨ m = .began ∨ m = .foundShut) : (t'.2.life c).state ≠ .active := by
  refine h.traces (J := fun ds w => m ∈ marks c ds → (w.life c).state ≠ .active)
    (fun {ds w a} hj he hmem => ?_) nofun hmem
  have hturn := w.turn_perform he c
  rw [marks_concat] at hmem
  rcases List.mem_append.1 hmem with hmem | hmem
  · exact hturn.ne_active (hj hmem)
  · exact (Option.mem_toList.1 hmem ▸ hturn).ne_active_of_mark hm

/-- **Nobody enters a context that is not active.** -/
theorem entered_not_mem (h : Runs t ds t') {c : ContextId} (hs : (t.2.life c).state ≠ .active) :
    .entered ∉ marks c ds := by
  have hnone : .entered ∉ marks c ds ∧ (t'.2.life c).state ≠ .active :=
    h.traces (J := fun ds w => .entered ∉ marks c ds ∧ (w.life c).state ≠ .active)
      (fun {ds w a} hj he => by
        have hturn := w.turn_perform he c
        refine ⟨fun hmem => ?_, hturn.ne_active hj.2⟩
        rw [marks_concat] at hmem
        rcases List.mem_append.1 hmem with hmem | hmem
        · exact hj.1 hmem
        · exact (hturn.of_ne_active hj.2).1 (Option.mem_toList.1 hmem))
      ⟨nofun, hs⟩
  exact hnone.1

end Program.Runs

end Tenancy
