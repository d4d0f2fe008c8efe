import Mathlib.Data.List.SplitBy
import Tenancy.Proofs.Activation.Stack

/-!
# Proofs/Activation/Runs — a stack is a plain stack of names, kept in runs

    frames, written out  =  maximal runs of the names

Beside the stack of activations stands the plain stack of names that it means (`Names.move`): a name
is put on top, or taken off if it is there.  Moves in turn answer the same on both, and what they
leave is the run-length encoding of the plain one (`ActivationStack.moves_refine_names`).
-/

namespace Tenancy

/-- A run, written out. -/
def Frame.written (f : Frame) : List String :=
  List.replicate f.count f.name

theorem Frame.eq_name_of_mem_written {f : Frame} {name : String} (h : name ∈ f.written) :
    name = f.name :=
  List.eq_of_mem_replicate h

namespace ActivationStack

/-! ## Moves -/

/-- What is done to a stack. -/
inductive Move where
  | push (c : Context)
  | pop (name : String)

def move (s : ActivationStack) : Move → Except ActivationError Nat × ActivationStack
  | .push c => (.ok (s.push c).1, (s.push c).2)
  | .pop name =>
    match s.pop name with
    | .ok (n, s') => (.ok n, s')
    | .error e => (.error e, s)

namespace Names

/-- The maximal runs of equal names. -/
def runs (names : List String) : List (List String) :=
  names.splitBy (· == ·)

/-- The length of the run on top. -/
def topRun (names : List String) : Nat :=
  ((runs names).head?.map List.length).getD 0

/-- **A move of the plain stack.**  It answers how long the run on top is with the name that was put
there, or without the one that was taken off. -/
def move (names : List String) : Move → Except ActivationError Nat × List String
  | .push c => (.ok (topRun (c.name :: names)), c.name :: names)
  | .pop name =>
    match names with
    | [] => (.error (.notActive name), [])
    | top :: rest =>
      if top = name then (.ok (topRun (top :: rest) - 1), rest)
      else (.error (.mismatch name top), top :: rest)

end Names

/-- The answers to moves in turn, and what is there after them. -/
def moveAll {S : Type} (move : S → Move → Except ActivationError Nat × S) :
    S → List Move → List (Except ActivationError Nat) × S
  | s, [] => ([], s)
  | s, m :: ms =>
    ((move s m).1 :: (moveAll move (move s m).2 ms).1, (moveAll move (move s m).2 ms).2)

variable {s s' : ActivationStack} {c : Context} {name : String} {n : Nat}

/-! ## Runs are maximal -/

theorem isChain_push (h : s.frames.IsChain fun f f' => f.name ≠ f'.name) (c : Context) :
    (s.push c).2.frames.IsChain fun f f' => f.name ≠ f'.name := by
  rcases push_cases s c with ⟨top, rest, rfl, -, hpush⟩ | ⟨hne, hpush⟩
  · rw [hpush]
    -- the run that grows keeps its name, so its neighbour differs still
    exact List.isChain_cons.2 (List.isChain_cons.1 h)
  · rw [hpush]
    exact List.isChain_cons.2 ⟨fun top htop => (hne top htop).symm, h⟩

theorem isChain_pop (h : s.frames.IsChain fun f f' => f.name ≠ f'.name)
    (hp : s.pop name = .ok (n, s')) :
    s'.frames.IsChain fun f f' => f.name ≠ f'.name := by
  obtain ⟨top, rest, rfl, -, ⟨-, -, rfl⟩ | ⟨-, -, rfl⟩⟩ := pop_cases hp
  · exact h.tail
  · exact List.isChain_cons.2 (List.isChain_cons.1 h)

/-- Neighbouring runs of a thread have different names. -/
theorem Arises.isChain (h : s.Arises) : s.frames.IsChain fun f f' => f.name ≠ f'.name := by
  induction h with
  | empty => exact List.isChain_nil
  | pushed _ c ih => exact isChain_push ih c
  | popped _ hp ih => exact isChain_pop ih hp

theorem names_eq_flatten (s : ActivationStack) :
    s.names = (s.frames.map Frame.written).flatten :=
  List.flatMap_def

/-- **The runs of a thread, written out, are the maximal runs of its names.** -/
theorem Arises.runs_names (h : s.Arises) : Names.runs s.names = s.frames.map Frame.written := by
  have hwritten : ∀ f ∈ s.frames, f.written ≠ [] := fun f hf => by
    rw [Frame.written, Ne, List.replicate_eq_nil_iff]
    exact Nat.ne_of_gt (h.count_pos f hf)
  rw [Names.runs, names_eq_flatten]
  refine List.splitBy_flatten (fun hnil => ?_) (fun run hrun => ?_) ?_
  · obtain ⟨f, hf, hempty⟩ := List.mem_map.1 hnil
    exact hwritten f hf hempty
  · obtain ⟨f, -, rfl⟩ := List.mem_map.1 hrun
    exact List.isChain_replicate_of_rel _ (beq_self_eq_true _)
  · refine (List.isChain_map _).2 (h.isChain.imp_of_mem_imp fun f f' hf hf' hne => ?_)
    refine ⟨hwritten f hf, hwritten f' hf', ?_⟩
    rw [Frame.eq_name_of_mem_written (List.getLast_mem (hwritten f hf)),
      Frame.eq_name_of_mem_written (List.head_mem (hwritten f' hf'))]
    exact beq_false_of_ne hne

/-- The length of the run on top is its count. -/
theorem Arises.topRun_names (h : s.Arises) : Names.topRun s.names = s.reentrancy := by
  have hlength : List.length ∘ Frame.written = Frame.count :=
    funext fun f => List.length_replicate
  rw [Names.topRun, h.runs_names, List.head?_map, Option.map_map, hlength, reentrancy]

/-- The run on top begins with the name on top. -/
theorem Arises.head?_names (h : s.Arises) : s.names.head? = s.currentName := by
  obtain ⟨frames⟩ := s
  cases frames with
  | nil => rfl
  | cons top rest =>
    obtain ⟨n, hn⟩ := Nat.exists_eq_add_of_lt (h.count_pos top List.mem_cons_self)
    rw [Nat.zero_add] at hn
    simp [names, currentName, hn, List.replicate_succ]

/-! ## Moves of both stacks -/

/-- Ending an activation takes the latest name off and shortens its run. -/
theorem Arises.names_pop (h : s.Arises) (hp : s.pop name = .ok (n, s')) :
    s.names = name :: s'.names ∧ n = s.reentrancy - 1 := by
  obtain ⟨top, rest, rfl, rfl, hshorter⟩ := pop_cases hp
  obtain ⟨k, hk⟩ := Nat.exists_eq_succ_of_ne_zero (h.count_pos top List.mem_cons_self).ne'
  rcases hshorter with ⟨hone, rfl, rfl⟩ | ⟨-, rfl, rfl⟩
  · obtain rfl : k = 0 := by omega
    simp [names, reentrancy, hk]
  · refine ⟨?_, rfl⟩
    simp [names, Frame.name, hk, List.replicate_succ]

/-- An activation ends if its name is the latest; otherwise the failure tells which one is. -/
theorem pop_eq_error_iff {e : ActivationError} :
    s.pop name = .error e ↔
      match s.currentName with
      | none => e = .notActive name
      | some top => top ≠ name ∧ e = .mismatch name top := by
  obtain ⟨frames⟩ := s
  cases frames with
  | nil => simp [pop, currentName, eq_comm]
  | cons top rest =>
    by_cases hname : top.name = name
    · simp [pop, currentName, hname]
      split <;> simp
    · simp [pop, currentName, hname, eq_comm]

/-- An activation answers how long the run is that it joins or opens. -/
theorem reentrancy_push (s : ActivationStack) (c : Context) :
    (s.push c).2.reentrancy = (s.push c).1 := by
  rcases push_cases s c with ⟨top, rest, rfl, -, hpush⟩ | ⟨-, hpush⟩
  · rw [hpush]
    rfl
  · rw [hpush]
    rfl

theorem Arises.moved (h : s.Arises) (m : Move) : (s.move m).2.Arises := by
  cases m with
  | push c => exact h.pushed c
  | pop name =>
    rw [move]
    cases hp : s.pop name with
    | ok r => exact h.popped hp
    | error e => exact h

theorem move_error (s : ActivationStack) (m : Move) (e : ActivationError)
    (he : (s.move m).1 = .error e) : (s.move m).2 = s := by
  cases m with
  | push c => cases he
  | pop name =>
    rw [move] at he ⊢
    cases hp : s.pop name with
    | ok r =>
      rw [hp] at he
      cases he
    | error e => rfl

/-- **A move of the stack is a move of its names**, with the same answer. -/
theorem Arises.move_names (h : s.Arises) (m : Move) :
    Names.move s.names m = ((s.move m).1, (s.move m).2.names) := by
  cases m with
  | push c =>
    have hrun := (h.pushed c).topRun_names
    rw [names_push, reentrancy_push] at hrun
    simp only [Names.move, move, names_push, hrun]
  | pop name =>
    have hhead := h.head?_names
    have hrun := h.topRun_names
    rw [move]
    cases hp : s.pop name with
    | ok r =>
      obtain ⟨n, s'⟩ := r
      obtain ⟨hnames, rfl⟩ := h.names_pop hp
      rw [hnames] at hrun ⊢
      simp only [Names.move, if_true, hrun]
    | error e =>
      have he := pop_eq_error_iff.1 hp
      rw [← hhead] at he
      cases hnames : s.names with
      | nil =>
        rw [hnames] at he
        exact congrArg (fun e => (Except.error e, [])) he.symm
      | cons top rest =>
        rw [hnames] at he
        obtain ⟨hne, rfl⟩ := he
        exact if_neg hne

/-! ## Moves in turn -/

theorem moveAll_append {S : Type} (step : S → Move → Except ActivationError Nat × S) (s : S)
    (ms ms' : List Move) :
    moveAll step s (ms ++ ms') =
      ((moveAll step s ms).1 ++ (moveAll step (moveAll step s ms).2 ms').1,
        (moveAll step (moveAll step s ms).2 ms').2) := by
  induction ms generalizing s with
  | nil => rfl
  | cons m ms ih =>
    rw [List.cons_append, moveAll, ih]
    rfl

theorem Arises.moveAll_names (h : s.Arises) (ms : List Move) :
    (moveAll move s ms).2.Arises ∧
      moveAll Names.move s.names ms = ((moveAll move s ms).1, (moveAll move s ms).2.names) := by
  induction ms generalizing s with
  | nil => exact ⟨h, rfl⟩
  | cons m ms ih =>
    obtain ⟨hlast, hrest⟩ := ih (h.moved m)
    refine ⟨hlast, ?_⟩
    rw [moveAll, h.move_names, hrest]
    rfl

/-- The beginnings of activations, and their ends in reverse. -/
def thereAndBack (cs : List Context) : List Move :=
  cs.map .push ++ cs.reverse.map fun c => .pop c.name

/-- **Activations that end in reverse leave the stack as it was**, and none of them fails. -/
theorem Arises.moveAll_back (h : s.Arises) (cs : List Context) :
    (∀ x ∈ (moveAll move s (thereAndBack cs)).1, ∃ n, x = .ok n) ∧
      (moveAll move s (thereAndBack cs)).2 = s := by
  induction cs generalizing s with
  | nil => exact ⟨nofun, rfl⟩
  | cons c cs ih =>
    obtain ⟨hok, hstack⟩ := ih (h.pushed c)
    obtain ⟨n, hn⟩ := h.pop_push c
    -- what begins first ends last, and the others begin and end in between
    have hmoves : thereAndBack (c :: cs) = .push c :: (thereAndBack cs ++ [.pop c.name]) := by
      simp [thereAndBack]
    have hlast : moveAll move (s.push c).2 [.pop c.name] = ([.ok n], s) := by
      simp only [moveAll, move, hn]
    have hall : moveAll move s (thereAndBack (c :: cs)) =
        (.ok (s.push c).1 :: ((moveAll move (s.push c).2 (thereAndBack cs)).1 ++ [.ok n]), s) := by
      rw [hmoves, moveAll]
      simp only [move, moveAll_append, hstack, hlast]
    rw [hall]
    refine ⟨fun x hx => ?_, rfl⟩
    rcases List.mem_cons.1 hx with rfl | hx
    · exact ⟨_, rfl⟩
    · rcases List.mem_append.1 hx with hx | hx
      · exact hok x hx
      · exact ⟨n, List.mem_singleton.1 hx⟩

/-- **The stack is the run-length encoding of names.** -/
structure Encodes (s : ActivationStack) (plain : List String) : Prop where
  runs : s.frames.map Frame.written = Names.runs plain
  names : s.names = plain
  count_pos : ∀ f ∈ s.frames, 0 < f.count
  apart : s.frames.IsChain fun f f' => f.name ≠ f'.name
  depth : s.depth = (Names.runs plain).length
  reentrancy : s.reentrancy = Names.topRun plain
  currentName : s.currentName = plain.head?

theorem Arises.encodes (h : s.Arises) : s.Encodes s.names where
  runs := h.runs_names.symm
  names := rfl
  count_pos := h.count_pos
  apart := h.isChain
  depth := by rw [h.runs_names, List.length_map, depth]
  reentrancy := h.topRun_names.symm
  currentName := h.head?_names.symm

/-- **A stack of activations is a plain stack of names.**  Moves in turn from the empty stack answer
what they answer on the plain one, and leave its encoding.  From there a move that fails changes
nothing, and activations that begin and end in reverse never fail and leave the stack as it was. -/
theorem moves_refine_names (ms : List Move) :
    let r := moveAll move {} ms
    let plain := moveAll Names.move [] ms
    r.1 = plain.1 ∧ r.2.Encodes plain.2 ∧
      (∀ m e, (r.2.move m).1 = .error e → (r.2.move m).2 = r.2) ∧
      ∀ cs : List Context,
        let r' := moveAll move r.2 (thereAndBack cs)
        (∀ x ∈ r'.1, ∃ n, x = .ok n) ∧ r'.2 = r.2 := by
  intro r plain
  obtain ⟨hr, hplain⟩ := Arises.empty.moveAll_names ms
  have hplain : plain = (r.1, r.2.names) := hplain
  rw [hplain]
  exact ⟨rfl, hr.encodes, r.2.move_error, hr.moveAll_back⟩

end ActivationStack

end Tenancy
