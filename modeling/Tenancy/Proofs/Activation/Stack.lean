import Tenancy.Activation.Scope
import Tenancy.Program

/-!
# Proofs/Activation/Stack — what beginning and ending an activation does to a stack

Ending an activation right after it began gives the stack back, counts included
(`ActivationStack.Arises.pop_push`).  A context that is activated becomes the current one, unless a
run of its namespace is on top: then the one that opened the run stays current (`current_push`).
-/

namespace Tenancy

namespace ActivationStack

variable {s s' : ActivationStack} {c : Context} {name : String} {n : Nat}

/-- An activation of the namespace on top adds to its run. -/
theorem push_joins {top : Frame} {rest : List Frame} (h : top.name = c.name) :
    push ⟨top :: rest⟩ c = (top.count + 1, ⟨{ top with count := top.count + 1 } :: rest⟩) := by
  simp only [push, if_pos h]

/-- An activation of another namespace opens a run. -/
theorem push_opens {top : Frame} {rest : List Frame} (h : top.name ≠ c.name) :
    push ⟨top :: rest⟩ c = (1, ⟨⟨c, 1⟩ :: top :: rest⟩) := by
  simp only [push, if_neg h]

/-- **All that an activation does**: it joins the run on top, or opens one. -/
theorem push_cases (s : ActivationStack) (c : Context) :
    (∃ top rest, s = ⟨top :: rest⟩ ∧ top.name = c.name ∧
        s.push c = (top.count + 1, ⟨{ top with count := top.count + 1 } :: rest⟩)) ∨
      (∀ top ∈ s.frames.head?, top.name ≠ c.name) ∧ s.push c = (1, ⟨⟨c, 1⟩ :: s.frames⟩) := by
  obtain ⟨frames⟩ := s
  cases frames with
  | nil => exact .inr ⟨nofun, rfl⟩
  | cons top rest =>
    by_cases hname : top.name = c.name
    · exact .inl ⟨top, rest, rfl, hname, push_joins hname⟩
    · exact .inr ⟨fun f hf => Option.some.inj hf ▸ hname, push_opens hname⟩

/-- **All that the end of an activation does**: the run on top ends, or is one shorter. -/
theorem pop_cases (hp : s.pop name = .ok (n, s')) :
    ∃ top rest, s = ⟨top :: rest⟩ ∧ top.name = name ∧
      (top.count ≤ 1 ∧ n = 0 ∧ s' = ⟨rest⟩ ∨
        1 < top.count ∧ n = top.count - 1 ∧
          s' = ⟨{ top with count := top.count - 1 } :: rest⟩) := by
  obtain ⟨frames⟩ := s
  cases frames with
  | nil => cases hp
  | cons top rest =>
    simp only [pop] at hp
    split at hp
    · rename_i hname
      refine ⟨top, rest, rfl, hname, ?_⟩
      split at hp
      · cases hp
        exact .inl ⟨‹_›, rfl, rfl⟩
      · cases hp
        exact .inr ⟨Nat.lt_of_not_le ‹_›, rfl, rfl⟩
    · cases hp

/-! ## The stacks that threads have -/

/-- The stack comes from the empty one by activations that began or ended. -/
inductive Arises : ActivationStack → Prop
  | empty : Arises {}
  | pushed {s : ActivationStack} (h : Arises s) (c : Context) : Arises (s.push c).2
  | popped {s s' : ActivationStack} {name : String} {n : Nat} (h : Arises s)
      (hp : s.pop name = .ok (n, s')) : Arises s'

theorem forall_count_push (h : ∀ f ∈ s.frames, 0 < f.count) (c : Context) :
    ∀ f ∈ (s.push c).2.frames, 0 < f.count := by
  rcases push_cases s c with ⟨top, rest, rfl, -, hpush⟩ | ⟨-, hpush⟩
  · rw [hpush]
    exact List.forall_mem_cons.2 ⟨Nat.succ_pos _, (List.forall_mem_cons.1 h).2⟩
  · rw [hpush]
    exact List.forall_mem_cons.2 ⟨Nat.one_pos, h⟩

theorem forall_count_pop (h : ∀ f ∈ s.frames, 0 < f.count) (hp : s.pop name = .ok (n, s')) :
    ∀ f ∈ s'.frames, 0 < f.count := by
  obtain ⟨top, rest, rfl, -, ⟨-, -, rfl⟩ | ⟨hmore, -, rfl⟩⟩ := pop_cases hp
  · exact (List.forall_mem_cons.1 h).2
  · exact List.forall_mem_cons.2 ⟨Nat.sub_pos_of_lt hmore, (List.forall_mem_cons.1 h).2⟩

/-- No run of a thread is empty. -/
theorem Arises.count_pos (h : s.Arises) : ∀ f ∈ s.frames, 0 < f.count := by
  induction h with
  | empty => simp
  | pushed _ c ih => exact forall_count_push ih c
  | popped _ hp ih => exact forall_count_pop ih hp

/-- **An activation that ends leaves the stack as it was before it began.** -/
theorem Arises.pop_push (h : s.Arises) (c : Context) :
    ∃ n, (s.push c).2.pop c.name = .ok (n, s) := by
  rcases push_cases s c with ⟨top, rest, rfl, hname, hpush⟩ | ⟨-, hpush⟩
  · have htop : 0 < top.count := h.count_pos top List.mem_cons_self
    have hmore : ¬ top.count + 1 ≤ 1 := by omega
    have hgrown : ({ top with count := top.count + 1 } : Frame).name = c.name := hname
    rw [hpush]
    exact ⟨top.count, by simp only [pop, if_pos hgrown, if_neg hmore, Nat.add_sub_cancel]⟩
  · rw [hpush]
    exact ⟨0, by simp [pop, Frame.name]⟩

/-! ## What is current -/

/-- The context that opened the run that an activation joins or opens. -/
def opener (s : ActivationStack) (c : Context) : Context :=
  match s.current with
  | some top => if top.name = c.name then top else c
  | none => c

theorem current_push (s : ActivationStack) (c : Context) :
    (s.push c).2.current = some (s.opener c) := by
  obtain ⟨frames⟩ := s
  cases frames with
  | nil => rfl
  | cons top rest =>
    by_cases hname : top.name = c.name
    · rw [push_joins hname]
      exact congrArg some (if_pos hname).symm
    · rw [push_opens hname]
      exact congrArg some (if_neg hname).symm

theorem opener_of_current {top : Context} (h : s.current = some top) (hname : top.name = c.name) :
    s.opener c = top := by
  simp only [opener, h, if_pos hname]

/-- The context that is activated opens the run, unless another one of its name is current. -/
theorem opener_eq_iff :
    s.opener c = c ↔ ∀ top, s.current = some top → top.name = c.name → top = c := by
  constructor
  · intro h top htop hname
    rw [← h, opener_of_current htop hname]
  · intro h
    unfold opener
    split
    · rename_i top htop
      split
      · exact h top htop ‹_›
      · rfl
    · rfl

end ActivationStack

/-! ## On a thread -/

namespace Activation

variable {σ τ : Type} [Threaded σ τ]

open Threaded (thread withThread thread_withThread)

@[simp] theorem thread_report (e : Event) (t : τ) :
    thread (report e t) =
      { thread t with world := { (thread t).world with events := e :: (thread t).world.events } } :=
  thread_withThread _ _

@[simp] theorem thread_withStack (k : ActivationStack) (t : τ) :
    thread (withStack k t) = { thread t with stack := k } :=
  thread_withThread _ _

/-- A thread runs a program to its end. -/
def runHere {α : Type} [Plugin.Backend σ] (p : Program α) (t : τ) : α × τ :=
  ((p.run (thread t).world).1, withThread { thread t with world := (p.run (thread t).world).2 } t)

@[simp] theorem thread_runHere {α : Type} [Plugin.Backend σ] (p : Program α) (t : τ) :
    thread (runHere p t).2 = { thread t with world := (p.run (thread t).world).2 } :=
  thread_withThread _ _

theorem stack_push (c : Context) (t : τ) :
    (thread (push c t).2).stack = ((thread t).stack.push c).2 := by
  simp [push]

theorem world_push (c : Context) (t : τ) :
    ∃ es, (thread (push c t).2).world = { (thread t).world with events := es } :=
  ⟨_, by simp [push]; rfl⟩

/-- **Ending an activation acts on the stack alone**, reports apart. -/
theorem pop_eq (name : String) (t : τ) :
    match (thread t).stack.pop name with
    | .ok (n, k) => (pop name t).1 = .ok n ∧ (thread (pop name t).2).stack = k ∧
        ∃ es, (thread (pop name t).2).world = { (thread t).world with events := es }
    | .error e => pop name t = (.error e, t) := by
  unfold pop
  cases (thread t).stack.pop name with
  | error e => rfl
  | ok r =>
    obtain ⟨n, k⟩ := r
    exact ⟨rfl, by simp, _, by simp; rfl⟩

end Activation

end Tenancy
