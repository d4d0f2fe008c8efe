import Tenancy.Proofs.Context.Definers

/-!
# Proofs/Context/Leftovers — what a retired context still hands out

    look-ups                        →  refused
    links of what it defined        →  refused, if there are any
    links of what others defined    →  looked up where they were defined

A context that is no longer in use refuses every look-up.  The links of an artifact are looked up in
the source that defined it, and the walk to that source passes by the context that is asked: so it
is not the context that refuses, but whoever defined the artifact (`Context.links_of_retired`).
-/

namespace Tenancy

/-! ## Refusals along a chain -/

/-- **A look-up is refused by a context of the chain**, if no resolver is asked. -/
theorem View.mem_of_first_shut {v : View} {stand : Option Holding → Found} {key : ArtifactKey}
    {chain : List Layer} (hp : ∀ l ∈ chain, l.isPlain) {id : ContextId} {name : String}
    (hf : v.first stand key chain = .error (.contextShutdown id name)) :
    id ∈ chain.map Layer.id := by
  have hown : ∀ own : Holding, own.find key ≠ .error (.contextShutdown id name) := fun own hfind =>
    absurd (Holding.not_shut_of_find hfind) nofun
  induction chain with
  | nil => cases hf
  | cons l behind ih =>
    obtain ⟨hl, hb⟩ := List.forall_mem_cons.1 hp
    cases l with
    | resolver => exact hl.elim
    | host own => exact absurd hf (hown own)
    | context own order =>
      simp only [first] at hf
      split at hf
      · refine List.mem_cons_of_mem _ (ih hb ?_)
        cases order with
        | childFirst =>
          rcases Chain.otherwise_eq_error.1 hf with hfind | ⟨-, hbehind⟩
          · exact absurd hfind (hown own)
          · exact hbehind
        | parentFirst =>
          rcases Chain.otherwise_eq_error.1 hf with hbehind | ⟨-, hfind⟩
          · exact hbehind
          · exact absurd hfind (hown own)
      · cases hf
        exact List.mem_cons_self

namespace Source

variable {σ : Type} [Plugin.Backend σ] {s : Source} {w : World σ} {active : Option String}
  {id : ContextId} {name : String}

theorem orNotFound_shut {key : ArtifactKey} {searched : ContextId} {found : Found}
    (h : orNotFound key searched found = .error (.contextShutdown id name)) :
    found = .error (.contextShutdown id name) := by
  rcases found with e | _ | a
  · cases h
    rfl
  · cases h
  · cases h

theorem mem_of_lookup_shut (hp : ∀ l ∈ s.layers, l.isPlain) {key : ArtifactKey}
    (h : ((s.lookup active key).run w).1 = .error (.contextShutdown id name)) :
    id ∈ s.layers.map Layer.id := by
  rw [(reads_lookup active key (head_ne hp) σ w rfl).1] at h
  have hreach : w.view.reach s.layers ⊆ s.layers := fun l => View.mem_of_mem_reach
  exact List.map_subset _ hreach
    (View.mem_of_first_shut (fun l hl => hp l (hreach hl)) (orNotFound_shut h))

theorem mem_of_linked_shut (hp : ∀ l ∈ s.layers, l.isPlain) {links : List String}
    (h : s.linked active w links = .error (.contextShutdown id name)) :
    id ∈ s.layers.map Layer.id := by
  unfold linked at h
  induction links with
  | nil => cases h
  | cons link links ih =>
    rw [List.mapM_cons] at h
    cases hone : ((s.lookup active (.code link)).run w).1 with
    | error e =>
      rw [hone] at h
      cases h
      exact mem_of_lookup_shut hp hone
    | ok a =>
      cases hrest : links.mapM fun link => ((s.lookup active (.code link)).run w).1 with
      | error e =>
        rw [hone, hrest] at h
        cases h
        exact ih hrest
      | ok found => rw [hone, hrest] at h; cases h

end Source

/-! ## A context that is not in use -/

namespace Context

variable {σ : Type} [Plugin.Backend σ] {c : Context} {w : World σ}

/-- What a context that is not in use answers. -/
def refusal (c : Context) : NamespaceError :=
  .contextShutdown c.id c.name

theorem lookup_retired (hs : (w.life c.id).state ≠ .active) (active : Option String)
    (key : ArtifactKey) : ((c.source.lookup active key).run w).1 = .error c.refusal := by
  have hshut : w.view.isOpen c.own.id = false := decide_eq_false hs
  rw [(Source.reads_lookup active key (by simp [source]) σ w rfl).1]
  simp only [source, Source.layers, View.reach, View.first, hshut, Bool.false_eq_true, if_false]
  rfl

theorem lookupAll_retired (hs : (w.life c.id).state ≠ .active) (active : Option String)
    (key : ArtifactKey) : ((c.source.lookupAll active key).run w).1 = .error c.refusal := by
  have hshut : w.view.isOpen c.own.id = false := decide_eq_false hs
  rw [(Source.reads_lookupAll active c.source key σ w rfl).1]
  simp only [source, Source.layers, View.reach, View.every, hshut, Bool.false_eq_true, if_false]
  rfl

theorem findLocal_retired (hs : (w.life c.id).state ≠ .active) (key : ArtifactKey) :
    ((c.findLocal key).run w).1 = .error c.refusal :=
  (Program.Reads.within_shut (v := w.view) (h := c.own) (decide_eq_false hs) σ w rfl).1

/-- Without a link there is no look-up that could be refused. -/
theorem linked_retired (hs : (w.life c.id).state ≠ .active) (active : Option String)
    (links : List String) :
    c.source.linked active w links = if links = [] then .ok [] else .error c.refusal := by
  cases links with
  | nil => rfl
  | cons link links =>
    rw [Source.linked, List.mapM_cons, lookup_retired hs]
    rfl

/-- **What a context that is not in use answers.**  It refuses every look-up.  Of the links of an
artifact,

* those of an artifact of its own are refused if there are any;
* those of any other are looked up in the source that defined it, if the walk comes to that source,
  and else the artifact itself is not found;
* so where no resolver is behind the context, and not the context itself, they are refused by it if
  and only if the artifact is its own and has links. -/
theorem links_of_retired (hs : (w.life c.id).state ≠ .active) (active : Option String) :
    ((∀ id, ((c.resolve active id).run w).1 = .error c.refusal) ∧
      (∀ id, ((c.enumerate active id).run w).1 = .error c.refusal) ∧
      (∀ path, ((c.findResource active path).run w).1 = .error c.refusal) ∧
      (∀ path, ((c.findResources active path).run w).1 = .error c.refusal) ∧
      ∀ key, ((c.findLocal key).run w).1 = .error c.refusal) ∧
    ∀ a : Artifact,
      let links := ((c.resolveLinks active a).run w).1
      (a.origin.context = c.id → links = if a.links = [] then .ok [] else .error c.refusal) ∧
      (a.origin.context ≠ c.id → links =
        match w.view.sourceIn a.origin.context c.behind with
        | some s => s.linked active w a.links
        | none => .error (.artifactNotFound a.key c.id)) ∧
      ((∀ l ∈ c.behind, l.isPlain) → c.id ∉ c.behind.map Layer.id →
        (links = .error c.refusal ↔ a.origin.context = c.id ∧ a.links ≠ [])) := by
  refine ⟨⟨fun id => lookup_retired hs active _, fun id => lookupAll_retired hs active _,
    fun path => lookup_retired hs active _, fun path => lookupAll_retired hs active _,
    findLocal_retired hs⟩, fun a => ?_⟩
  intro links
  have hlinks : links = _ := run_resolveLinks c active a w
  by_cases hown : a.origin.context = c.id
  · rw [if_pos hown, linked_retired hs] at hlinks
    refine ⟨fun _ => hlinks, fun hne => absurd hown hne, fun _ _ => ?_⟩
    rw [hlinks]
    by_cases hnone : a.links = [] <;> simp [hnone, hown]
  · rw [if_neg hown] at hlinks
    refine ⟨fun h => absurd h hown, fun _ => hlinks, fun hp hc => ⟨fun hrefused => ?_, fun h =>
      absurd h.1 hown⟩⟩
    -- what refuses would have to be behind the context
    refine absurd ?_ hc
    rw [hlinks] at hrefused
    cases hsource : w.view.sourceIn a.origin.context c.behind with
    | none => rw [hsource] at hrefused; cases hrefused
    | some s =>
      rw [hsource] at hrefused
      have hbehind := (View.sourceIn_suffix hsource).subset
      exact List.map_subset _ hbehind
        (Source.mem_of_linked_shut (fun l hl => hp l (hbehind hl)) hrefused)

/-- A context with a unit of its own that delegates to the holding of the tenant. -/
def beforeTenant : Context where
  own := ⟨⟨6⟩, "app", .ofList [(.code "c.C", .compress (.code "c.C") linkingUnit),
    (.code "d.D", .compress (.code "d.D") [])], .descriptor⟩
  order := .childFirst
  behind := [.host linkedTenant.own]

/-- The world in which it has been shut down. -/
def afterTenant : World Plugin.Directory :=
  (beforeTenant.shutdown.run linkedTenantBound).2

/-- The links of its own unit are refused. -/
theorem links_of_retired_own :
    let a : Artifact := ⟨.code "c.C", linkingUnit, ⟨⟨6⟩, "app"⟩, ["b.B"]⟩
    ((beforeTenant.resolve none "c.C").run linkedTenantBound).1 = .ok a ∧
      ((beforeTenant.resolveLinks none a).run afterTenant).1 = .error beforeTenant.refusal := by
  intro a
  have hs : (afterTenant.life beforeTenant.id).state ≠ .active := by decide +kernel
  obtain ⟨-, hlinks⟩ := links_of_retired hs none
  have hplain : ∀ l ∈ beforeTenant.behind, l.isPlain := fun l hl => by
    obtain rfl := List.mem_singleton.1 hl
    trivial
  exact ⟨by decide +kernel, ((hlinks a).2.2 hplain (by decide)).2 ⟨rfl, nofun⟩⟩

/-- The links of what was found through it in the holding behind it are not, nor are those of a unit
that has none. -/
theorem links_of_retired_behind :
    let a : Artifact := ⟨.code "a.A", linkingUnit, ⟨⟨1⟩, "ns1"⟩, ["b.B"]⟩
    let d : Artifact := ⟨.code "d.D", [], ⟨⟨6⟩, "app"⟩, []⟩
    ((beforeTenant.resolve none "a.A").run linkedTenantBound).1 = .ok a ∧
      ((beforeTenant.resolve none "d.D").run linkedTenantBound).1 = .ok d ∧
      (afterTenant.life beforeTenant.id).state = .disposed ∧
      ((beforeTenant.resolve none "a.A").run afterTenant).1 = .error beforeTenant.refusal ∧
      ((beforeTenant.resolveLinks none a).run afterTenant).1 =
        .ok [⟨.code "b.B", [], ⟨⟨1⟩, "ns1"⟩, []⟩] ∧
      ((beforeTenant.resolveLinks none d).run afterTenant).1 = .ok [] := by
  decide +kernel

end Context

end Tenancy
