import Tenancy.Proofs.Activation.Entering

/-!
# Proofs/Service/Brackets — setting up and cleaning up

Setting a tag up and cleaning it up makes a bracket.  What a thread does inside is closed if every
activation that begins there ends there (`Service.Closed`); names may be bound and unbound
meanwhile.  A bracket around it gives the stack back where the tag is a name.  A bracket without a
tag looks the default namespace up twice, and gives the stack back if and only if it is there both
times or neither time (`Service.cleanup_closes_iff`).
-/

namespace Tenancy

/-! ## Names and their flag -/

/-- Names are bound to contexts that are called so, and the default flag is right.  So it is in
every world of a registry. -/
structure World.Tidy {σ : Type} (w : World σ) : Prop where
  named : ∀ name c, w.bound.get? name = some c → c.name = name
  default : w.defaultDefined = w.bound.contains defaultName

theorem World.Tidy.events {σ : Type} {w : World σ} (h : w.Tidy) (es : List Event) :
    World.Tidy { w with events := es } :=
  ⟨h.named, h.default⟩

theorem World.Fresh.tidy {σ : Type} {w : World σ} (h : w.Fresh) : w.Tidy where
  named name c hc := by
    rw [h.bound] at hc
    cases hc
  default := by
    rw [h.defaultDefined, h.bound]
    rfl

theorem Registry.Coherent.tidy {σ : Type} {s : RegistrySettings} {mine : ContextId → Prop}
    {gs : List Duty} {w : World σ} (h : Coherent s mine gs w) : w.Tidy where
  named _ _ := h.name_of_bound
  default := h.default

namespace Registry

variable {σ α : Type} [Plugin.Backend σ] {s : RegistrySettings} {w : World σ}

/-- What leaves the names alone leaves the default flag as it is. -/
theorem defaultDefined_run {p : Program α} (hp : p.Only Action.IsQuiet) (w : World σ) :
    (p.run w).2.defaultDefined = w.defaultDefined := by
  refine hp.preserves (F := fun w' => w'.defaultDefined = w.defaultDefined) (fun {a w'} ha h => ?_)
    rfl
  cases a with
  | bind name c => exact ha.elim
  | unbind name => exact ha.elim
  | _ => exact h

theorem tidy_install (hw : w.Tidy) (name : String) (entries : ArtifactMap)
    (order : ResolutionOrder) : ((install s name entries order).run w).2.Tidy := by
  obtain ⟨-, hbound⟩ := run_install s name entries order w
  have hflag : ((install s name entries order).run w).2.defaultDefined =
      if name = defaultName then true else w.defaultDefined := by
    obtain ⟨e, he⟩ := install_eq s name entries order
    rw [he]
    exact defaultDefined_run (only_settle _ _) _
  refine ⟨fun name' c hc => ?_, ?_⟩
  · rw [hbound, Table.get?_insert] at hc
    split at hc
    · rename_i hname
      cases hc
      exact hname.symm
    · exact hw.named name' c hc
  · rw [hflag, hbound, Table.contains, Table.get?_insert]
    by_cases hname : name = defaultName
    · rw [if_pos hname, if_pos hname.symm]
      rfl
    · rw [if_neg hname, if_neg (Ne.symm hname)]
      exact hw.default

theorem tidy_remove (hw : w.Tidy) (name : String) : ((remove name).run w).2.Tidy := by
  obtain ⟨-, -, hbound, hsame⟩ := run_remove name w
  cases hname : w.bound.contains name with
  | false =>
    rw [hsame hname]
    exact hw
  | true =>
    have hflag : ((remove name).run w).2.defaultDefined =
        if name = defaultName then false else w.defaultDefined := by
      obtain ⟨c, hc⟩ := Option.isSome_iff_exists.1 hname
      obtain ⟨e, he⟩ := remove_eq name
      have hanswer : (w.perform (.unbind name)).1 = some c := hc
      rw [he, Program.run_act, hanswer, Option.elim_some, Program.run_act, Program.run_bind]
      refine (defaultDefined_run (only_retire c) _).trans ?_
      simp [World.perform, hc]
    refine ⟨fun name' c hc => ?_, ?_⟩
    · rw [hbound, Table.get?_erase] at hc
      split at hc
      · cases hc
      · exact hw.named name' c hc
    · rw [hflag, hbound, Table.contains, Table.get?_erase]
      by_cases hdefault : name = defaultName
      · rw [if_pos hdefault, if_pos hdefault.symm]
        rfl
      · rw [if_neg hdefault, if_neg (Ne.symm hdefault)]
        exact hw.default

theorem tidy_call (hw : w.Tidy) (c : Call) : ((c.program s).run w).2.Tidy := by
  obtain ⟨-, heffect⟩ := call_means s c w
  generalize ((c.program s).run w).1 = x at heffect
  cases heffect with
  | nothing _ hsame =>
    rw [hsame]
    exact hw.events _
  | installs es name entries order hrun =>
    rw [hrun]
    exact tidy_install (hw.events es) name entries order
  | removes name _ hrun =>
    rw [hrun]
    exact tidy_remove hw name

/-- **Calls on a registry keep its names tidy**, whatever the world they come to. -/
theorem tidy_callAll (hw : w.Tidy) (cs : List Call) : ((callAll s cs).run w).2.Tidy := by
  induction cs generalizing w with
  | nil => exact hw
  | cons c cs ih =>
    rw [callAll, Program.run_bind, Program.run_bind]
    exact ih (tidy_call hw c)

end Registry

variable {σ τ α : Type} [Threaded σ τ] {s : RegistrySettings} {t t₁ t₂ t' : τ}
  {tag : Option String} {b : Bool} {c : Context}

open Threaded (thread)

/-! ## One activation -/

namespace Activation

/-- An activation can be ended where the stack is as it was when it began. -/
theorem pop_of_push (hs : (thread t).stack.Arises)
    (hstack : (thread t').stack = (thread (push c t).2).stack) :
    ∃ n, (thread t').stack.pop c.name = .ok (n, (thread t).stack) := by
  rw [hstack, stack_push]
  exact hs.pop_push c

theorem arises_push (hs : (thread t).stack.Arises) (c : Context) :
    (thread (push c t).2).stack.Arises := by
  rw [stack_push]
  exact hs.pushed c

theorem tidy_push (hw : (thread t).world.Tidy) (c : Context) :
    (thread (push c t).2).world.Tidy := by
  obtain ⟨es, hworld⟩ := world_push c t
  rw [hworld]
  exact hw.events es

/-- A guard that is dropped in its turn ends the activation. -/
theorem dropGuard_of_pop {name : String} {n : Nat} {k : ActivationStack}
    (h : (thread t).stack.pop name = .ok (n, k)) (ending : Ending α) :
    (thread (dropGuard name ending t).2).stack = k ∧
      ((thread t).world.Tidy → (thread (dropGuard name ending t).2).world.Tidy) := by
  have hpop := pop_eq name t
  rw [h] at hpop
  unfold dropGuard
  generalize pop name t = popped at hpop
  obtain ⟨x, t₁⟩ := popped
  obtain ⟨rfl, hstack, es, hworld⟩ := hpop
  exact ⟨hstack, fun hw => hworld ▸ hw.events es⟩

end Activation

/-! ## Setting up and cleaning up -/

namespace Service

/-- The name that a tag stands for, if anything. -/
def nameOf (tag : Option String) : String :=
  tag.getD defaultName

/-- **Setting up** activates what the tag stands for, or there is no default namespace and nothing
is done. -/
theorem setup_ok (hw : (thread t).world.Tidy) (h : (registry s).setup tag t = (.ok b, t₁)) :
    (∃ c, c.name = nameOf tag ∧ b = true ∧ t₁ = (Activation.push c t).2) ∨
      (tag = none ∧ b = false ∧ t₁ = t) := by
  cases tag with
  | some name =>
    cases hc : (thread t).world.bound.get? name with
    | none => simp [setup, scopedContext, hc] at h
    | some c =>
      simp only [setup, scopedContext, hc, Prod.mk.injEq, Except.ok.injEq] at h
      exact .inl ⟨c, hw.named name c hc, h.1.symm, h.2.symm⟩
  | none =>
    cases hc : (thread t).world.bound.get? defaultName with
    | none =>
      simp only [setup, scopedContext, hc, Prod.mk.injEq, Except.ok.injEq] at h
      exact .inr ⟨rfl, h.1.symm, h.2.symm⟩
    | some c =>
      simp only [setup, scopedContext, hc, Prod.mk.injEq, Except.ok.injEq] at h
      exact .inl ⟨c, hw.named defaultName c hc, h.1.symm, h.2.symm⟩

/-- Without a tag it is the flag that tells what setting up answers. -/
theorem setup_default (hw : (thread t).world.Tidy)
    (h : (registry s).setup none t = (.ok b, t₁)) : b = (thread t).world.defaultDefined := by
  rw [hw.default, Table.contains]
  cases hc : (thread t).world.bound.get? defaultName with
  | none =>
    simp only [setup, scopedContext, hc, Prod.mk.injEq, Except.ok.injEq] at h
    exact h.1.symm
  | some c =>
    simp only [setup, scopedContext, hc, Prod.mk.injEq, Except.ok.injEq] at h
    exact h.1.symm

/-- Setting up leaves the contexts of the registry in order. -/
theorem coherent_setup {mine : ContextId → Prop} {g : Duty} {others : List Duty}
    (h : Registry.Coherent s mine (g :: others) (thread t).world) (tag : Option String) :
    Registry.Coherent s mine (g :: others) (thread ((registry s).setup tag t).2).world := by
  unfold setup
  split
  · rename_i c _
    obtain ⟨es, hworld⟩ := Activation.world_push c t
    rw [hworld]
    exact h.calm (.events _ es)
  · exact h
  · exact h

/-- Without a tag and without a default namespace there is nothing to clean up. -/
theorem cleanup_undefined (h : (thread t).world.defaultDefined = false) :
    (registry s).cleanup none t = (.ok false, t) := by
  simp [cleanup, cleanupName, isDefaultDefined, h]

/-- **Otherwise cleaning up ends an activation**, if the latest one is of the name that the tag
stands for. -/
theorem cleanup_defined (s : RegistrySettings) (tag : Option String)
    (hflag : tag = none → (thread t).world.defaultDefined = true) :
    match (thread t).stack.pop (nameOf tag) with
    | .ok (_, k) => ((registry s).cleanup tag t).1 = .ok true ∧
        (thread ((registry s).cleanup tag t).2).stack = k ∧
        ((thread t).world.Tidy → (thread ((registry s).cleanup tag t).2).world.Tidy)
    | .error e => (registry s).cleanup tag t = (.error (.activation e), t) := by
  have hname : (registry s).cleanupName (thread t).world tag = some (nameOf tag) := by
    cases tag with
    | some name => rfl
    | none =>
      unfold cleanupName isDefaultDefined
      simp only [hflag rfl]
      rfl
  have hpop := Activation.pop_eq (nameOf tag) t
  simp only [cleanup, hname]
  generalize Activation.pop (nameOf tag) t = popped at hpop
  obtain ⟨x, t₁⟩ := popped
  split <;> rename_i hstack <;> rw [hstack] at hpop
  · obtain ⟨rfl, hrest, es, hworld⟩ := hpop
    exact ⟨rfl, hrest, fun hw => hworld ▸ hw.events es⟩
  · cases hpop
    rfl

/-- Cleaning up ends the activation of setting up, where the stack is as it was in between. -/
theorem cleanup_of_push (hs : (thread t).stack.Arises) (hname : c.name = nameOf tag)
    (hstack : (thread t').stack = (thread (Activation.push c t).2).stack)
    (hflag : tag = none → (thread t').world.defaultDefined = true) :
    ((registry s).cleanup tag t').1 = .ok true ∧
      (thread ((registry s).cleanup tag t').2).stack = (thread t).stack ∧
      ((thread t').world.Tidy → (thread ((registry s).cleanup tag t').2).world.Tidy) := by
  obtain ⟨n, hn⟩ := Activation.pop_of_push hs hstack
  have hend := cleanup_defined s tag hflag
  rw [← hname, hn] at hend
  exact hend

/-! ## Closed -/

/-- **Every activation that begins ends**, the latest first: the world changes, a bracket or a
scoped call is closed around something closed, or one such thing follows another. -/
inductive Closed (s : RegistrySettings) : τ → τ → Prop
  | change {t t' : τ} (hstack : (thread t').stack = (thread t).stack)
      (hworld : (thread t').world.Tidy) : Closed s t t'
  | bracket {t t₁ t₂ t₃ : τ} {tag : Option String} {b : Bool}
      (hsetup : (registry s).setup tag t = (.ok b, t₁)) (hin : Closed s t₁ t₂)
      (hcleanup : (registry s).cleanup tag t₂ = (.ok b, t₃)) : Closed s t t₃
  | scope {α : Type} {t t₁ : τ} (c : Context) (ending : Ending α)
      (hin : Closed s (Activation.push c t).2 t₁) :
      Closed s t (Activation.dropGuard c.name ending t₁).2
  | trans {t t₁ t₂ : τ} (h : Closed s t t₁) (h' : Closed s t₁ t₂) : Closed s t t₂

namespace Closed

/-- **What is closed leaves the stack as it was.** -/
theorem keeps (h : Closed s t t') (hw : (thread t).world.Tidy) (hs : (thread t).stack.Arises) :
    (thread t').world.Tidy ∧ (thread t').stack = (thread t).stack := by
  -- every part begins with the stack of the whole, or with one activation on top of it
  induction h with
  | change hstack hworld => exact ⟨hworld, hstack⟩
  | @bracket t t₁ t₂ t₃ tag b hsetup _ hcleanup ih =>
    rcases setup_ok hw hsetup with ⟨c, hname, rfl, rfl⟩ | ⟨rfl, rfl, rfl⟩
    · obtain ⟨hw₂, hstack₂⟩ := ih (Activation.tidy_push hw c) (Activation.arises_push hs c)
      have hflag : tag = none → (thread t₂).world.defaultDefined = true := by
        rintro rfl
        by_contra hnot
        rw [cleanup_undefined (Bool.eq_false_iff.2 hnot)] at hcleanup
        cases hcleanup
      have hend := cleanup_of_push (s := s) hs hname hstack₂ hflag
      rw [hcleanup] at hend
      exact ⟨hend.2.2 hw₂, hend.2.1⟩
    · obtain ⟨hw₂, hstack₂⟩ := ih hw hs
      cases hflag : (thread t₂).world.defaultDefined with
      | false =>
        rw [cleanup_undefined hflag] at hcleanup
        cases hcleanup
        exact ⟨hw₂, hstack₂⟩
      | true =>
        have hend := cleanup_defined s none fun _ => hflag
        rw [hcleanup] at hend
        split at hend
        · cases hend.1
        · cases hend
  | scope c ending _ ih =>
    obtain ⟨hw₁, hstack₁⟩ := ih (Activation.tidy_push hw c) (Activation.arises_push hs c)
    obtain ⟨n, hn⟩ := Activation.pop_of_push hs hstack₁
    obtain ⟨hstack₂, hw₂⟩ := Activation.dropGuard_of_pop hn ending
    exact ⟨hw₂ hw₁, hstack₂⟩
  | trans _ _ ih ih' =>
    obtain ⟨hw₁, hstack₁⟩ := ih hw hs
    obtain ⟨hw₂, hstack₂⟩ := ih' hw₁ (hstack₁ ▸ hs)
    exact ⟨hw₂, hstack₂.trans hstack₁⟩

/-- Calls on a registry are closed. -/
theorem calls [Plugin.Backend σ] {mine : ContextId → Prop}
    (h : Registry.Coherent s mine [.idle] (thread t).world) (cs : List Registry.Call) :
    Closed s t (Activation.runHere (Registry.callAll s cs) t).2 := by
  obtain ⟨-, h'⟩ := h.restored (Registry.restores_callAll cs)
  refine .change ?_ ?_
  · rw [Activation.thread_runHere]
  · rw [Activation.thread_runHere]
    exact h'.tidy

/-- A scoped call is closed if its body is. -/
theorem call {body : τ → Ending α × τ}
    (h : Closed s (Activation.push c t).2 (body (Activation.push c t).2).2) :
    Closed s t (Activation.call c body t).2 :=
  .scope c _ h

/-- So is a scoped call under a tag, whatever the tag stands for. -/
theorem service_call {body : τ → Ending α × τ} (hw : (thread t).world.Tidy)
    (h : ∀ b t₁, (registry s).setup tag t = (.ok b, t₁) → Closed s t₁ (body t₁).2) :
    Closed s t ((registry s).call tag body t).2 := by
  unfold setup at h
  unfold Service.call
  split
  · rename_i c hc
    rw [hc] at h
    exact call (h true _ rfl)
  · rename_i hc
    rw [hc] at h
    exact h false t rfl
  · exact .change rfl hw

/-- So is a call of a snapshot, whether anything was captured or not. -/
theorem snapshot_call {a : ActivationSnapshot} {body : τ → Ending α × τ}
    (h : match a.context with
      | some c => Closed s (Activation.push c t).2 (body (Activation.push c t).2).2
      | none => Closed s t (body t).2) : Closed s t (a.call body t).2 := by
  unfold ActivationSnapshot.call
  cases hc : a.context with
  | some c =>
    rw [hc] at h
    exact call h
  | none =>
    rw [hc] at h
    exact h

end Closed

/-! ## A bracket around something closed -/

section Bracket

variable (hw : (thread t).world.Tidy) (hs : (thread t).stack.Arises)

include hw hs

/-- What is closed leaves the stack as setting up left it. -/
theorem keeps_setup (hsetup : (registry s).setup tag t = (.ok b, t₁)) (hin : Closed s t₁ t₂) :
    (thread t₂).stack = (thread t₁).stack := by
  rcases setup_ok hw hsetup with ⟨c, -, -, rfl⟩ | ⟨-, -, rfl⟩
  · exact (hin.keeps (Activation.tidy_push hw c) (Activation.arises_push hs c)).2
  · exact (hin.keeps hw hs).2

/-- The default flag being what it was, or the tag a name, the bracket closes. -/
theorem cleanup_closes (hsetup : (registry s).setup tag t = (.ok b, t₁)) (hin : Closed s t₁ t₂)
    (hsame : tag = none → (thread t₂).world.defaultDefined = (thread t).world.defaultDefined) :
    ((registry s).cleanup tag t₂).1 = .ok b ∧
      (thread ((registry s).cleanup tag t₂).2).stack = (thread t).stack := by
  have hstack := keeps_setup hw hs hsetup hin
  rcases setup_ok hw hsetup with ⟨c, hname, rfl, rfl⟩ | ⟨rfl, rfl, rfl⟩
  · have hflag : tag = none → (thread t₂).world.defaultDefined = true := by
      rintro rfl
      exact (hsame rfl).trans (setup_default hw hsetup).symm
    obtain ⟨hanswer, hrest, -⟩ := cleanup_of_push (s := s) hs hname hstack hflag
    exact ⟨hanswer, hrest⟩
  · rw [cleanup_undefined ((hsame rfl).trans (setup_default hw hsetup).symm)]
    exact ⟨rfl, hstack⟩

/-- The default namespace being gone, its activation stays. -/
theorem cleanup_leaves (hsetup : (registry s).setup none t = (.ok true, t₁))
    (hin : Closed s t₁ t₂) (hafter : (thread t₂).world.defaultDefined = false) :
    (registry s).cleanup none t₂ = (.ok false, t₂) ∧
      (thread t₂).stack = (thread t₁).stack ∧
      (thread t₁).stack.currentName = some defaultName := by
  refine ⟨cleanup_undefined hafter, keeps_setup hw hs hsetup hin, ?_⟩
  obtain ⟨c, hname, -, rfl⟩ := (setup_ok hw hsetup).resolve_right (by simp)
  rw [Activation.stack_push, ActivationStack.currentName_push, hname]
  rfl

/-- The default namespace being new, an activation ends that did not begin here, if there is one. -/
theorem cleanup_ends (hsetup : (registry s).setup none t = (.ok false, t₁))
    (hin : Closed s t₁ t₂) (hafter : (thread t₂).world.defaultDefined = true) :
    match (thread t).stack.pop defaultName with
    | .ok (_, k) => ((registry s).cleanup none t₂).1 = .ok true ∧
        (thread ((registry s).cleanup none t₂).2).stack = k
    | .error e => (registry s).cleanup none t₂ = (.error (.activation e), t₂) := by
  have hstack := keeps_setup hw hs hsetup hin
  obtain ⟨-, -, rfl⟩ := (setup_ok hw hsetup).resolve_left (by simp)
  have hend := cleanup_defined s none fun _ => hafter
  rw [hstack, nameOf, Option.getD_none] at hend
  split <;> rename_i hpop <;> rw [hpop] at hend
  · exact ⟨hend.1, hend.2.1⟩
  · exact hend

/-- **A bracket gives the stack back if and only if its tag is a name, or the default namespace is
defined at its end as at its start.**  Otherwise it leaves the activation of the default namespace
where it is, or ends one that it did not begin, if there is one. -/
theorem cleanup_closes_iff (hsetup : (registry s).setup tag t = (.ok b, t₁))
    (hin : Closed s t₁ t₂) :
    let r := (registry s).cleanup tag t₂
    let before := (thread t).world.defaultDefined
    let after := (thread t₂).world.defaultDefined
    ((r.1 = .ok b ∧ (thread r.2).stack = (thread t).stack) ↔ (tag = none → after = before)) ∧
      (tag = none → before = true → after = false → r = (.ok false, t₂) ∧
        (thread t₂).stack = (thread t₁).stack ∧ (thread t₁).stack.currentName = some defaultName) ∧
      (tag = none → before = false → after = true →
        match (thread t).stack.pop defaultName with
        | .ok (_, k) => r.1 = .ok true ∧ (thread r.2).stack = k
        | .error e => r = (.error (.activation e), t₂)) := by
  intro r before after
  have hanswer : tag = none → b = before := by
    rintro rfl
    exact setup_default hw hsetup
  have hleaves : tag = none → before = true → after = false → r = (.ok false, t₂) ∧
      (thread t₂).stack = (thread t₁).stack ∧
      (thread t₁).stack.currentName = some defaultName := by
    rintro rfl hbefore hafter
    rw [hanswer rfl, hbefore] at hsetup
    exact cleanup_leaves hw hs hsetup hin hafter
  have hends : tag = none → before = false → after = true →
      match (thread t).stack.pop defaultName with
      | .ok (_, k) => r.1 = .ok true ∧ (thread r.2).stack = k
      | .error e => r = (.error (.activation e), t₂) := by
    rintro rfl hbefore hafter
    rw [hanswer rfl, hbefore] at hsetup
    exact cleanup_ends hw hs hsetup hin hafter
  refine ⟨⟨fun hr htag => ?_, cleanup_closes hw hs hsetup hin⟩, hleaves, hends⟩
  have hsame : r.1 = .ok before := hanswer htag ▸ hr.1
  cases hbefore : before with
  | true =>
    cases hafter : after with
    | true => rfl
    | false =>
      rw [(hleaves htag hbefore hafter).1, hbefore] at hsame
      cases hsame
  | false =>
    cases hafter : after with
    | false => rfl
    | true =>
      have hend := hends htag hbefore hafter
      rw [hbefore] at hsame
      split at hend
      · rw [hend.1] at hsame
        cases hsame
      · rw [hend] at hsame
        cases hsame

end Bracket

/-! ### The default namespace in between -/

open Activation (runHere)
open Registry (Call callAll)

/-- Adds a default namespace. -/
def addDefault (bytes : Bytes) : Call :=
  .addWithOrder defaultName [⟨"app.Order", .code, bytes⟩] .childFirst

/-- A thread that is nowhere, in a world with a default namespace. -/
def withDefault : Thread Plugin.Directory :=
  (runHere (callAll {} [addDefault [1]]) (⟨{}, .initial ∅⟩ : Thread Plugin.Directory)).2

/-- It is replaced between setting up and cleaning up. -/
theorem cleanup_default_replaced :
    let inside := ((registry {}).setup none withDefault).2
    let replaced := (runHere (callAll {} [addDefault [2]]) inside).2
    let r := (registry {}).cleanup none replaced
    r.1 = .ok true ∧ (thread r.2).stack = {} := by
  intro inside replaced
  have h : Registry.Coherent {} (fun id => 1 ≤ id.number) [.idle] (thread withDefault).world :=
    ((Registry.coherent_fresh {} (World.fresh_initial (∅ : Plugin.Directory)) 1).restored
      (Registry.restores_callAll [addDefault [1]])).2
  have hsetup : (registry {}).setup none withDefault = (.ok true, inside) :=
    Prod.ext (by decide +kernel) rfl
  have hin : Closed {} inside replaced := Closed.calls (coherent_setup h none) [addDefault [2]]
  have hdefined : (thread replaced).world.defaultDefined =
      (thread withDefault).world.defaultDefined := by decide +kernel
  have hstart : (thread withDefault).stack = {} := rfl
  have hs : (thread withDefault).stack.Arises := by rw [hstart]; exact .empty
  obtain ⟨hiff, -⟩ := cleanup_closes_iff h.tidy hs hsetup hin
  obtain ⟨hanswer, hstack⟩ := hiff.2 fun _ => hdefined
  exact ⟨hanswer, hstack.trans hstart⟩

/-- It is removed in between: there is nothing to clean up, and the thread stays inside. -/
theorem cleanup_default_removed :
    let inside := (registry {}).setup none withDefault
    let removed := (runHere (callAll {} [.remove defaultName]) inside.2).2
    let r := (registry {}).cleanup none removed
    inside.1 = .ok true ∧ r.1 = .ok false ∧ withDefault.stack.names = [] ∧
      r.2.stack.names = [defaultName] := by
  decide +kernel

end Service

end Tenancy
