import Tenancy.World

/-!
# Program — operations as sequences of actions

An operation is a program: it is done, or it performs an action and goes on with the answer. Run
alone it performs one action after another; run beside other programs it can be interrupted
between any two of them. Everything the library says about concurrent use is said about these
steps.
-/

namespace Tenancy

inductive Program (α : Type) where
  | done (a : α)
  | act (a : Action) (next : a.Answer → Program α)

namespace Program

variable {α β γ : Type}

protected def bind (f : α → Program β) : Program α → Program β
  | .done a => f a
  | .act a next => .act a fun x => Program.bind f (next x)

instance : Monad Program where
  pure := .done
  bind p f := Program.bind f p

/-- The program of one action. -/
def perform (a : Action) : Program a.Answer :=
  .act a .done

@[simp] theorem pure_eq (a : α) : (pure a : Program α) = .done a := rfl

@[simp] theorem done_bind (a : α) (f : α → Program β) : (Program.done a >>= f) = f a := rfl

@[simp] theorem act_bind (a : Action) (next : a.Answer → Program α) (f : α → Program β) :
    (Program.act a next >>= f) = .act a fun x => next x >>= f := rfl

theorem bind_done (p : Program α) : (p >>= fun a => Program.done a) = p := by
  induction p with
  | done a => rfl
  | act a next ih => simp [ih]

theorem bind_assoc (p : Program α) (f : α → Program β) (g : β → Program γ) :
    (p >>= f) >>= g = p >>= fun a => f a >>= g := by
  induction p with
  | done a => rfl
  | act a next ih => simp [ih]

instance : LawfulMonad Program :=
  LawfulMonad.mk' Program bind_done (fun _ _ => rfl) bind_assoc

/-! ## Running alone -/

variable {σ : Type} [Plugin.Backend σ]

/-- Performs the actions one after another. -/
def run : Program α → World σ → α × World σ
  | .done a, w => (a, w)
  | .act a next, w => run (next (w.perform a).1) (w.perform a).2

@[simp] theorem run_done (a : α) (w : World σ) : (Program.done a).run w = (a, w) := rfl

@[simp] theorem run_act (a : Action) (next : a.Answer → Program α) (w : World σ) :
    (Program.act a next).run w = (next (w.perform a).1).run (w.perform a).2 := rfl

@[simp] theorem run_perform (a : Action) (w : World σ) : (perform a).run w = w.perform a := rfl

/-- Running a sequence is running its parts in turn. -/
@[simp] theorem run_bind (p : Program α) (f : α → Program β) (w : World σ) :
    (p >>= f).run w = (f (p.run w).1).run (p.run w).2 := by
  induction p generalizing w with
  | done a => rfl
  | act a next ih => simp [ih]

/-! ## Running beside others -/

/-- Performs actions up to the first that has to wait. -/
def advance : Program α → World σ → Program α × World σ
  | .done a, w => (.done a, w)
  | .act a next, w =>
    if w.Enabled a then advance (next (w.perform a).1) (w.perform a).2 else (.act a next, w)

def isDone : Program α → Bool
  | .done _ => true
  | .act .. => false

/-- One program among several performs its next action, if it need not wait. -/
inductive Step : List (Program α) × World σ → List (Program α) × World σ → Prop
  | act (before after : List (Program α)) (a : Action) (next : a.Answer → Program α) (w : World σ)
      (h : w.Enabled a) :
      Step (before ++ .act a next :: after, w)
        (before ++ next (w.perform a).1 :: after, (w.perform a).2)

end Program

end Tenancy
