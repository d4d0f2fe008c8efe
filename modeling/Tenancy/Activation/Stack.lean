import Tenancy.Context.Layer

/-!
# Activation/Stack — which namespace is active

A stack of activations is kept as runs: activating the namespace that is on top adds to its run, and
anything else opens a new one. The context of a run is the one that opened it. `names` writes the
runs out.
-/

namespace Tenancy

/-- A run of activations of one namespace. -/
structure Frame where
  context : Context
  count : Nat

namespace Frame

def name (f : Frame) : String := f.context.name

end Frame

/-- The runs of a thread, the latest first. -/
structure ActivationStack where
  frames : List Frame := []

namespace ActivationStack

/-! ## What is on top -/

def current (s : ActivationStack) : Option Context :=
  s.frames.head?.map Frame.context

def currentName (s : ActivationStack) : Option String :=
  s.frames.head?.map Frame.name

/-- The length of the run on top. -/
def reentrancy (s : ActivationStack) : Nat :=
  (s.frames.head?.map Frame.count).getD 0

def depth (s : ActivationStack) : Nat :=
  s.frames.length

def isEmpty (s : ActivationStack) : Bool :=
  s.frames.isEmpty

/-- Every activation by name, the latest first. -/
def names (s : ActivationStack) : List String :=
  s.frames.flatMap fun f => List.replicate f.count f.name

/-! ## Operations -/

/-- **Activates the namespace of a context**; the length of the run that it joins or opens. -/
def push (s : ActivationStack) (c : Context) : Nat × ActivationStack :=
  match s.frames with
  | top :: rest =>
    if top.name = c.name then (top.count + 1, ⟨{ top with count := top.count + 1 } :: rest⟩)
    else (1, ⟨⟨c, 1⟩ :: top :: rest⟩)
  | [] => (1, ⟨[⟨c, 1⟩]⟩)

/-- **Ends the latest activation**, which has to be one of this namespace; what is left of its
run. -/
def pop (s : ActivationStack) (name : String) : Except ActivationError (Nat × ActivationStack) :=
  match s.frames with
  | [] => .error (.notActive name)
  | top :: rest =>
    if top.name = name then
      if top.count ≤ 1 then .ok (0, ⟨rest⟩)
      else .ok (top.count - 1, ⟨{ top with count := top.count - 1 } :: rest⟩)
    else .error (.mismatch name top.name)

@[simp] theorem names_push (s : ActivationStack) (c : Context) :
    (s.push c).2.names = c.name :: s.names := by
  obtain ⟨fs⟩ := s
  cases fs with
  | nil => simp [push, names, Frame.name]
  | cons top rest =>
    simp only [push]
    split
    · rename_i h
      simp [names, Frame.name, List.replicate_succ] at h ⊢
      exact h
    · simp [names, Frame.name]

@[simp] theorem currentName_push (s : ActivationStack) (c : Context) :
    (s.push c).2.currentName = some c.name := by
  obtain ⟨fs⟩ := s
  cases fs with
  | nil => rfl
  | cons top rest =>
    simp only [push]
    split
    · rename_i h
      simp [currentName, Frame.name] at h ⊢
      exact h
    · rfl

end ActivationStack

end Tenancy
