import Mathlib.Data.List.Forall2
import Tenancy.Proofs.Program.Trace

/-!
# Proofs/Program/Discipline — what a thread keeps to, and what all of them keep up

A thread that shares the world with others keeps to a *discipline*: a note of what it holds, which
actions it may perform while it holds that, and what it holds afterwards.  Whether it does can be
read off its program, one thread at a time (`Program.Keeps`).  An invariant of the world and of all
notes that no allowed action breaks (`Discipline.Upholds`) then holds along every run of any number
of threads (`Discipline.Upholds.runs`), and of one thread alone, which never waits
(`Discipline.Upholds.alone`).  It may tie them to the trace as well (`Discipline.Records.runs`).
-/

namespace Tenancy

/-- What may be done, what answer is counted on, and what is held afterwards; `G` is the type of
notes. -/
structure Discipline (G : Type) where
  allows : G → Action → Prop
  expects : G → (a : Action) → a.Answer → Prop
  after : G → (a : Action) → a.Answer → G

variable {G α β : Type}

/-- The discipline that allows some of the actions only. -/
def Discipline.restrict (D : Discipline G) (P : Action → Prop) : Discipline G :=
  { D with allows := fun g a => P a ∧ D.allows g a }

/-- **A program keeps a discipline**: from a note on, it does only what is allowed as long as the
answers are as expected, and in the end `post` holds of the note and the result. -/
def Program.Keeps (D : Discipline G) (post : G → α → Prop) : Program α → G → Prop
  | .done x, g => post g x
  | .act a next, g => D.allows g a ∧ ∀ x, D.expects g a x → (next x).Keeps D post (D.after g a x)

namespace Program.Keeps

variable {D : Discipline G}

theorem done {post : G → α → Prop} {x : α} {g : G} (h : post g x) :
    (Program.done x).Keeps D post g := h

theorem bind {post : G → β → Prop} {mid : G → α → Prop} {p : Program α} {f : α → Program β} {g : G}
    (hp : p.Keeps D mid g) (hf : ∀ g' x, mid g' x → (f x).Keeps D post g') :
    (p >>= f).Keeps D post g := by
  induction p generalizing g with
  | done x => exact hf g x hp
  | act a next ih => exact ⟨hp.1, fun x hx => ih x (hp.2 x hx)⟩

/-- What comes after a result that is known. -/
theorem bind_of_eq {post : G → β → Prop} {p : Program α} {f : α → Program β} {a : α} {g : G}
    (hp : p.Keeps D (fun _ x => x = a) g) (hf : ∀ g', (f a).Keeps D post g') :
    (p >>= f).Keeps D post g :=
  hp.bind fun g' x hx => by rw [hx]; exact hf g'

/-- An action and what comes after it. -/
theorem perform_bind {post : G → β → Prop} {a : Action} {f : a.Answer → Program β} {g : G}
    (ha : D.allows g a) (hf : ∀ x, D.expects g a x → (f x).Keeps D post (D.after g a x)) :
    (Program.perform a >>= f).Keeps D post g := ⟨ha, hf⟩

theorem imp {post post' : G → α → Prop} {p : Program α} {g : G} (hp : p.Keeps D post g)
    (h : ∀ g' x, post g' x → post' g' x) : p.Keeps D post' g := by
  induction p generalizing g with
  | done x => exact h g x hp
  | act a next ih => exact ⟨hp.1, fun x hx => ih x (hp.2 x hx)⟩

/-- What keeps to less keeps to more. -/
theorem widen {P : Action → Prop} {post : G → α → Prop} {p : Program α} {g : G}
    (hp : p.Keeps (D.restrict P) post g) : p.Keeps D post g := by
  induction p generalizing g with
  | done x => exact hp
  | act a next ih => exact ⟨hp.1.2, fun x hx => ih x (hp.2 x hx)⟩

end Program.Keeps

/-- Whatever the answers are, the program does nothing but this. -/
def Program.Only (P : Action → Prop) : Program α → Prop
  | .done _ => True
  | .act a next => P a ∧ ∀ x, (next x).Only P

namespace Program.Only

variable {P Q : Action → Prop}

theorem bind {p : Program α} {f : α → Program β} (hp : p.Only P) (hf : ∀ x, (f x).Only P) :
    (p >>= f).Only P := by
  induction p with
  | done x => exact hf x
  | act a next ih => exact ⟨hp.1, fun x => ih x (hp.2 x)⟩

theorem imp {p : Program α} (hp : p.Only P) (h : ∀ a, P a → Q a) : p.Only Q := by
  induction p with
  | done x => trivial
  | act a next ih => exact ⟨h a hp.1, fun x => ih x (hp.2 x)⟩

/-- A discipline that counts on no answers allows what its programs do. -/
theorem of_keeps {D : Discipline G} {post : G → α → Prop} (hx : ∀ g a x, D.expects g a x)
    (ha : ∀ g a, D.allows g a → P a) {p : Program α} {g : G} (hp : p.Keeps D post g) :
    p.Only P := by
  induction p generalizing g with
  | done x => trivial
  | act a next ih => exact ⟨ha g a hp.1, fun x => ih x (hp.2 x (hx g a x))⟩

variable {σ : Type} [Plugin.Backend σ] {F : World σ → Prop}

/-- What none of the actions breaks holds after a run. -/
theorem preserves (hF : ∀ {a w}, P a → F w → F (w.perform a).2) {p : Program α} (hp : p.Only P)
    {w : World σ} (hw : F w) : F (p.run w).2 := by
  induction p generalizing w with
  | done x => exact hw
  | act a next ih => exact ih _ (hp.2 _) (hF hp.1 hw)

/-- A step is one of the actions, and its thread goes on as it may. -/
theorem step {ps : List (Program α)} {w : World σ} {t : List (Program α) × World σ}
    (hps : ∀ p ∈ ps, p.Only P) (hs : Program.Step (ps, w) t) :
    (∃ a, P a ∧ t.2 = (w.perform a).2) ∧ ∀ p ∈ t.1, p.Only P := by
  cases hs with
  | act before after a next _ he =>
    obtain ⟨hbefore, hrest⟩ := List.forall_mem_append.1 hps
    obtain ⟨hact, hafter⟩ := List.forall_mem_cons.1 hrest
    exact ⟨⟨a, hact.1, rfl⟩,
      List.forall_mem_append.2 ⟨hbefore, List.forall_mem_cons.2 ⟨hact.2 _, hafter⟩⟩⟩

end Program.Only

/-- The program keeps the discipline and ends with the note that it began with. -/
def Program.Restores (D : Discipline G) (p : Program α) (g : G) : Prop :=
  p.Keeps D (fun g' _ => g' = g) g

namespace Program.Restores

variable {D : Discipline G} {g : G}

theorem done (x : α) : (Program.done x).Restores D g := rfl

/-- Between two notes that agree a program that restores its note can stand anywhere. -/
theorem keeps_bind {post : G → β → Prop} {p : Program α} {f : α → Program β}
    (hp : p.Restores D g) (hf : ∀ x, (f x).Keeps D post g) : (p >>= f).Keeps D post g :=
  Keeps.bind hp fun g' x hg' => by rw [hg']; exact hf x

theorem bind {p : Program α} {f : α → Program β} (hp : p.Restores D g)
    (hf : ∀ x, (f x).Restores D g) : (p >>= f).Restores D g :=
  hp.keeps_bind hf

/-- An action that is not noted. -/
theorem perform {a : Action} (ha : D.allows g a) (hg : ∀ x, D.after g a x = g) :
    (Program.perform a).Restores D g :=
  ⟨ha, fun x _ => hg x⟩

end Program.Restores

/-! ## Invariants -/

/-- What a thread keeps to: its note, and what it promises of note and result in the end. -/
structure Keeper (G α : Type) where
  note : G
  promise : G → α → Prop

namespace Discipline

/-- Each thread keeps to the discipline from its note on. -/
abbrev Kept (D : Discipline G) : List (Program α) → List (Keeper G α) → Prop :=
  List.Forall₂ fun p k => p.Keeps D k.promise k.note

/-- A thread that has returned has what it promised. -/
theorem Kept.promised {D : Discipline G} {ps : List (Program α)} {ks : List (Keeper G α)}
    (h : D.Kept ps ks) {i : Nat} {x : α} {promise : G → α → Prop}
    (hp : ps[i]? = some (.done x)) (hk : (ks.map Keeper.promise)[i]? = some promise) :
    ∃ g, promise g x := by
  induction h generalizing i with
  | nil => cases hp
  | cons hkeeps _ ih =>
    cases i with
    | zero =>
      cases hp
      cases hk
      exact ⟨_, hkeeps⟩
    | succ i => exact ih hp hk

/-- Of two lists that go side by side each has something beside every member of the other. -/
theorem exists_beside {R : α → β → Prop} {as : List α} {bs : List β} (h : List.Forall₂ R as bs)
    {a : α} (ha : a ∈ as) : ∃ b ∈ bs, R a b := by
  induction h with
  | nil => cases ha
  | cons hab _ ih =>
    rcases List.mem_cons.1 ha with rfl | ha
    · exact ⟨_, List.mem_cons_self, hab⟩
    · obtain ⟨b, hb, hab⟩ := ih ha
      exact ⟨b, List.mem_cons_of_mem _ hb, hab⟩

variable {σ : Type} [Plugin.Backend σ] {D : Discipline G} {I : List G → World σ → Prop}

/-- **No allowed action of any thread breaks the invariant**, and its answer is as expected.  The
invariant does not tell the threads apart. -/
structure Upholds (D : Discipline G) (I : List G → World σ → Prop) : Prop where
  perm : ∀ {gs gs' w}, gs.Perm gs' → I gs w → I gs' w
  step : ∀ {g others w a}, I (g :: others) w → D.allows g a → w.Enabled a →
    D.expects g a (w.perform a).1 ∧ I (D.after g a (w.perform a).1 :: others) (w.perform a).2

/-- The same for an invariant that ties notes and world to what has been done so far. -/
structure Records (D : Discipline G) (I : List Deed → List G → World σ → Prop) : Prop where
  perm : ∀ {ds gs gs' w}, gs.Perm gs' → I ds gs w → I ds gs' w
  step : ∀ {ds g others w a}, I ds (g :: others) w → D.allows g a → w.Enabled a →
    D.expects g a (w.perform a).1 ∧
      I (ds ++ [⟨a, (w.perform a).1⟩]) (D.after g a (w.perform a).1 :: others) (w.perform a).2

namespace Records

variable {I : List Deed → List G → World σ → Prop}

/-- One step of one thread, which its note allows; what the threads promise is not changed. -/
theorem step_threads (h : D.Records I) {before after : List (Program α)} {a : Action}
    {next : a.Answer → Program α} {w : World σ} {ks : List (Keeper G α)} {ds : List Deed}
    (he : w.Enabled a) (hk : D.Kept (before ++ .act a next :: after) ks)
    (hi : I ds (ks.map Keeper.note) w) :
    ∃ ks', D.Kept (before ++ next (w.perform a).1 :: after) ks' ∧
      ks'.map Keeper.promise = ks.map Keeper.promise ∧
      I (ds ++ [⟨a, (w.perform a).1⟩]) (ks'.map Keeper.note) (w.perform a).2 := by
  have hbefore := List.forall₂_take_append _ _ _ hk.flip
  have hafter := List.forall₂_drop_append _ _ _ hk.flip
  obtain ⟨k, ks₂, hkeeps, hks₂, hdrop⟩ := List.forall₂_cons_right_iff.1 hafter
  generalize hks₁ : ks.take before.length = ks₁ at hbefore
  obtain rfl : ks = ks₁ ++ k :: ks₂ := by rw [← hks₁, ← hdrop, List.take_append_drop]
  rw [List.map_append, List.map_cons] at hi
  obtain ⟨hx, hi'⟩ := h.step (h.perm List.perm_middle hi) hkeeps.1 he
  refine ⟨ks₁ ++ ⟨D.after k.note a (w.perform a).1, k.promise⟩ :: ks₂,
    List.rel_append hbefore.flip (.cons (hkeeps.2 _ hx) hks₂.flip), ?_, ?_⟩
  · rw [List.map_append, List.map_append]
    rfl
  · rw [List.map_append, List.map_cons]
    exact h.perm List.perm_middle.symm hi'

/-- **Along every run of the threads the invariant holds**, with notes that each of them keeps to
from there on. -/
theorem runs (h : D.Records I) {t t' : List (Program α) × World σ} {ds : List Deed}
    (hr : Program.Runs t ds t') {ks : List (Keeper G α)} (hk : D.Kept t.1 ks)
    (hi : I [] (ks.map Keeper.note) t.2) :
    ∃ ks', D.Kept t'.1 ks' ∧ ks'.map Keeper.promise = ks.map Keeper.promise ∧
      I ds (ks'.map Keeper.note) t'.2 := by
  -- after the first deed the invariant is of the trace from there on
  induction hr generalizing ks I with
  | stop t => exact ⟨ks, hk, rfl, hi⟩
  | act before after a next w he _ ih =>
    obtain ⟨ks₁, hk₁, hpromise, hi₁⟩ := h.step_threads he hk hi
    have hrest : D.Records fun ds gs w' => I (⟨a, (w.perform a).1⟩ :: ds) gs w' :=
      ⟨h.perm, h.step⟩
    obtain ⟨ks', hk', hpromise', hi'⟩ := ih hrest hk₁ hi₁
    exact ⟨ks', hk', hpromise'.trans hpromise, hi'⟩

end Records

namespace Upholds

/-- What the remaining actions leave alone can be added to an invariant. -/
theorem restrict {P : Action → Prop} {F : World σ → Prop} (h : D.Upholds I)
    (hF : ∀ {a w}, P a → F w → F (w.perform a).2) :
    (D.restrict P).Upholds fun gs w => I gs w ∧ F w where
  perm hp hi := ⟨h.perm hp hi.1, hi.2⟩
  step hi ha he := by
    obtain ⟨hx, hi'⟩ := h.step hi.1 ha.2 he
    exact ⟨hx, hi', hF ha.1 hi.2⟩

/-- **What ties notes and world to the trace can be added too**, action by action. -/
theorem records (h : D.Upholds I) {J : List Deed → List G → World σ → Prop}
    (hperm : ∀ {ds gs gs' w}, gs.Perm gs' → J ds gs w → J ds gs' w)
    (hJ : ∀ {ds g others w a}, J ds (g :: others) w → I (g :: others) w → D.allows g a →
      w.Enabled a → J (ds ++ [⟨a, (w.perform a).1⟩]) (D.after g a (w.perform a).1 :: others)
        (w.perform a).2) :
    D.Records fun ds gs w => I gs w ∧ J ds gs w where
  perm hp hi := ⟨h.perm hp hi.1, hperm hp hi.2⟩
  step hi ha he := by
    obtain ⟨hx, hi'⟩ := h.step hi.1 ha he
    exact ⟨hx, hi', hJ hi.2 hi.1 ha he⟩

variable {post : G → α → Prop}

/-- **Along every run of the threads the invariant holds**, and with it whatever ties the world to
the trace. -/
theorem runs (h : D.Upholds I) {J : List Deed → World σ → Prop}
    (hJ : ∀ {ds g others w a}, J ds w → I (g :: others) w → D.allows g a → w.Enabled a →
      J (ds ++ [⟨a, (w.perform a).1⟩]) (w.perform a).2)
    {t t' : List (Program α) × World σ} {ds : List Deed} (hr : Program.Runs t ds t')
    {ks : List (Keeper G α)} (hk : D.Kept t.1 ks) (hi : I (ks.map Keeper.note) t.2)
    (hj : J [] t.2) :
    ∃ ks', D.Kept t'.1 ks' ∧ ks'.map Keeper.promise = ks.map Keeper.promise ∧
      I (ks'.map Keeper.note) t'.2 ∧ J ds t'.2 :=
  (h.records (J := fun ds _ w => J ds w) (fun _ hj => hj) hJ).runs hr hk ⟨hi, hj⟩

/-- The same for threads that all promise one thing. -/
theorem run (h : D.Upholds I) {t t' : List (Program α) × World σ} {gs : List G}
    (hs : Relation.ReflTransGen Program.Step t t')
    (hk : List.Forall₂ (fun p g => p.Keeps D post g) t.1 gs) (hi : I gs t.2) :
    ∃ gs', List.Forall₂ (fun p g => p.Keeps D post g) t'.1 gs' ∧ I gs' t'.2 := by
  obtain ⟨ds, hds⟩ := Program.Runs.exists_iff.2 hs
  have hkept : D.Kept t.1 (gs.map fun g => ⟨g, post⟩) := List.forall₂_map_right_iff.2 hk
  have hnotes : (gs.map fun g => (⟨g, post⟩ : Keeper G α)).map Keeper.note = gs := by
    rw [List.map_map]
    exact List.map_id gs
  obtain ⟨ks', hk', hpromise, hi', -⟩ := h.runs (J := fun _ _ => True) (fun _ _ _ _ => trivial)
    hds hkept (by rwa [hnotes]) trivial
  have hpost : ∀ k ∈ ks', k.promise = post := fun k hk => by
    have hmem := List.mem_map_of_mem (f := Keeper.promise) hk
    rw [hpromise, List.map_map] at hmem
    obtain ⟨g, -, hg⟩ := List.mem_map.1 hmem
    exact hg.symm
  have hsame : (ks'.map Keeper.note).map (fun g => (⟨g, post⟩ : Keeper G α)) = ks' := by
    rw [List.map_map]
    exact (List.map_congr_left fun k hk => by rw [Function.comp_apply, ← hpost k hk]; rfl).trans
      (List.map_id ks')
  rw [← hsame] at hk'
  exact ⟨_, (List.forall₂_map_right_iff (f := fun g => (⟨g, post⟩ : Keeper G α))).1 hk', hi'⟩

/-- **A thread that is alone runs to its end**, if what is allowed to it need never wait. -/
theorem alone (h : D.Upholds I) (hfree : ∀ {g w a}, I [g] w → D.allows g a → w.Enabled a)
    {p : Program α} {g : G} {w : World σ} (hk : p.Keeps D post g) (hi : I [g] w) :
    p.advance w = (.done (p.run w).1, (p.run w).2) ∧
      ∃ g', post g' (p.run w).1 ∧ I [g'] (p.run w).2 := by
  induction p generalizing g w with
  | done x => exact ⟨rfl, g, hk, hi⟩
  | act a next ih =>
    have he := hfree hi hk.1
    obtain ⟨hx, hi'⟩ := h.step hi hk.1 he
    obtain ⟨hadvance, hend⟩ := ih _ (hk.2 _ hx) hi'
    rw [Program.advance, if_pos he]
    exact ⟨hadvance, hend⟩

end Upholds

end Discipline

/-! ## Advancing -/

namespace Program

/-- What the program came to, if it is done. -/
def result? : Program α → Option α
  | .done x => some x
  | .act .. => none

theorem eq_done_of_result {p : Program α} {x : α} (h : p.result? = some x) : p = .done x := by
  cases p with
  | done y => exact congrArg Program.done (Option.some.inj h)
  | act a next => cases h

theorem getElem?_of_result {ps : List (Program α)} {i : Nat} {x : α}
    (h : ps[i]?.bind result? = some x) : ps[i]? = some (.done x) := by
  obtain ⟨p, hp, hx⟩ := Option.bind_eq_some_iff.1 h
  rw [hp, eq_done_of_result hx]

theorem exists_done {ps : List (Program α)} {i : Nat} (h : (ps[i]?.bind result?).isSome = true) :
    ∃ x, ps[i]? = some (.done x) :=
  (Option.isSome_iff_exists.1 h).imp fun _ => getElem?_of_result

variable {σ : Type} [Plugin.Backend σ]

/-- Whatever advances to its end runs to it. -/
theorem run_of_advance {p : Program α} {w w' : World σ} {x : α}
    (h : p.advance w = (.done x, w')) : p.run w = (x, w') := by
  induction p generalizing w with
  | done y =>
    cases h
    rfl
  | act a next ih =>
    rw [advance] at h
    split at h
    · exact ih _ h
    · cases h

theorem advance_bind {p : Program α} {w w' : World σ} {x : α} (h : p.advance w = (.done x, w'))
    (f : α → Program β) : (p >>= f).advance w = (f x).advance w' := by
  induction p generalizing w with
  | done y =>
    cases h
    rfl
  | act a next ih =>
    rw [advance] at h
    split at h
    · rename_i he
      rw [act_bind, advance, if_pos he, ih _ h]
    · cases h

/-- One of several programs advances by steps. -/
theorem steps_advance (before rest : List (Program α)) (p : Program α) (w : World σ) :
    Relation.ReflTransGen Program.Step (before ++ p :: rest, w)
      (before ++ (p.advance w).1 :: rest, (p.advance w).2) := by
  induction p generalizing w with
  | done x => exact .refl
  | act a next ih =>
    rw [advance]
    split
    · rename_i he
      exact .head (.act before rest a next w he) (ih _ _)
    · exact .refl

end Program

end Tenancy
