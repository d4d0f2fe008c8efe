import Mathlib.Logic.Equiv.Defs
import Tenancy.Proofs.Context.Links
import Tenancy.Proofs.Registry.Enlisting

/-!
# Proofs/Context/Renumbering — identities are no more than names

    look-up from a renumbered source  =  what the look-up finds, renumbered

An identity is compared with others and handed on, and nothing else.  So where two views match along
a renumbering (`View.Matches`), look-ups, links and the plugins that a context should have match
along it too, whatever else is in the two worlds (`View.Matches.lookup_eq`,
`Bridge.wanted_renumber`).
-/

namespace Tenancy

abbrev Renumbering := Equiv.Perm ContextId

/-! ## What bears identities -/

section Renumber

variable (ρ : Renumbering)

def Origin.renumber (o : Origin) : Origin :=
  { o with context := ρ o.context }

def Artifact.renumber (a : Artifact) : Artifact :=
  { a with origin := a.origin.renumber ρ }

def NamespaceError.renumber : NamespaceError → NamespaceError
  | .artifactNotFound key c => .artifactNotFound key (ρ c)
  | .contextShutdown c name => .contextShutdown (ρ c) name
  | e => e

def Holding.renumber (h : Holding) : Holding :=
  { h with id := ρ h.id }

def Layer.renumber : Layer → Layer
  | .context own order => .context (own.renumber ρ) order
  | .host own => .host (own.renumber ρ)
  | .resolver id fallback => .resolver (ρ id) (fallback.map (Holding.renumber ρ))

def Source.renumber (s : Source) : Source :=
  ⟨s.head.renumber ρ, s.behind.map (Layer.renumber ρ)⟩

def Context.renumber (c : Context) : Context :=
  ⟨c.own.renumber ρ, c.order, c.behind.map (Layer.renumber ρ)⟩

/-- An answer, renumbered; `f` renumbers what is found. -/
def renumbered {α : Type} (f : α → α) : Except NamespaceError α → Except NamespaceError α
  | .ok x => .ok (f x)
  | .error e => .error (e.renumber ρ)

abbrev renumberedOne : Except NamespaceError Artifact → Except NamespaceError Artifact :=
  renumbered ρ (Artifact.renumber ρ)

abbrev renumberedAll :
    Except NamespaceError (List Artifact) → Except NamespaceError (List Artifact) :=
  renumbered ρ (List.map (Artifact.renumber ρ))

abbrev renumberedFound : Found → Found :=
  renumbered ρ (Option.map (Artifact.renumber ρ))

end Renumber

variable {ρ : Renumbering}

@[simp] theorem Layer.id_renumber (l : Layer) : (l.renumber ρ).id = ρ l.id := by
  cases l <;> rfl

@[simp] theorem Layer.delegates_renumber (l : Layer) : (l.renumber ρ).delegates = l.delegates := by
  cases l <;> rfl

theorem Layer.isPlain_renumber {l : Layer} (h : l.isPlain) : (l.renumber ρ).isPlain := by
  cases l with
  | resolver id host => exact h
  | _ => trivial

@[simp] theorem Artifact.context_renumber (a : Artifact) :
    (a.renumber ρ).origin.context = ρ a.origin.context := rfl

@[simp] theorem Holding.id_renumber (h : Holding) : (h.renumber ρ).id = ρ h.id := rfl

@[simp] theorem Context.id_renumber (c : Context) : (c.renumber ρ).id = ρ c.id := rfl

theorem Context.behind_renumber (c : Context) :
    (c.renumber ρ).behind = c.behind.map (Layer.renumber ρ) := rfl

theorem Context.source_renumber (c : Context) :
    (c.renumber ρ).source = c.source.renumber ρ := rfl

theorem Source.layers_renumber (s : Source) :
    (s.renumber ρ).layers = s.layers.map (Layer.renumber ρ) := rfl

/-! ## What one holding has -/

theorem Materializer.ofEntry_renumber (m : Materializer) (e : Entry) (key : ArtifactKey)
    (o : Origin) :
    m.ofEntry e key (o.renumber ρ) = renumberedOne ρ (m.ofEntry e key o) := by
  unfold ofEntry materialize
  cases e.decompress with
  | error f => rfl
  | ok bytes =>
    simp only
    split <;> rfl

theorem Holding.find_renumber (h : Holding) (key : ArtifactKey) :
    (h.renumber ρ).find key = renumberedFound ρ (h.find key) := by
  have horigin : (h.renumber ρ).origin = h.origin.renumber ρ := rfl
  rw [find, find, horigin]
  cases hentry : h.entries.get? key with
  | none => rw [show (h.renumber ρ).entries.get? key = none from hentry]; rfl
  | some e =>
    rw [show (h.renumber ρ).entries.get? key = some e from hentry]
    simp only [renumber, Materializer.ofEntry_renumber]
    cases h.materializer.ofEntry e key h.origin <;> rfl

/-! ## Along a chain -/

namespace Chain

theorem otherwise_renumbered (x y : Found) :
    otherwise (renumberedFound ρ x) (renumberedFound ρ y) = renumberedFound ρ (otherwise x y) := by
  rcases x with e | _ | a <;> rfl

theorem merge_renumbered (order : ResolutionOrder) (own : Option Artifact)
    (inherited : List Artifact) :
    merge order (own.map (Artifact.renumber ρ)) (inherited.map (Artifact.renumber ρ)) =
      (merge order own inherited).map (Artifact.renumber ρ) := by
  cases order <;> cases own <;> simp [merge]

end Chain

/-- **The views match along a renumbering** about a source that asks no resolver: which of its
contexts are in use, and how far its chain is held. -/
structure View.Matches (ρ : Renumbering) (v v' : View) (s : Source) : Prop where
  plain : ∀ l ∈ s.layers, l.isPlain
  isOpen : ∀ own order, .context own order ∈ s.layers → v'.isOpen (ρ own.id) = v.isOpen own.id
  isHeld : ∀ l ∈ s.behind, v'.isHeld (ρ l.id) = v.isHeld l.id

namespace View

variable {v v' : View} {key : ArtifactKey}

theorem takeWhile_renumber {chain : List Layer}
    (hh : ∀ l ∈ chain, v'.isHeld (ρ l.id) = v.isHeld l.id) :
    ((chain.map (Layer.renumber ρ)).takeWhile fun l => v'.isHeld l.id) =
      (chain.takeWhile fun l => v.isHeld l.id).map (Layer.renumber ρ) := by
  induction chain with
  | nil => rfl
  | cons l chain ih =>
    obtain ⟨hl, hc⟩ := List.forall_mem_cons.1 hh
    rw [List.map_cons, List.takeWhile_cons, List.takeWhile_cons, Layer.id_renumber, hl, ih hc]
    split <;> rfl

theorem first_renumber {stand stand' : Option Holding → Found} {chain : List Layer}
    (hp : ∀ l ∈ chain, l.isPlain)
    (ho : ∀ own order, .context own order ∈ chain → v'.isOpen (ρ own.id) = v.isOpen own.id) :
    v'.first stand' key (chain.map (Layer.renumber ρ)) =
      renumberedFound ρ (v.first stand key chain) := by
  induction chain with
  | nil => rfl
  | cons l chain ih =>
    obtain ⟨hl, hc⟩ := List.forall_mem_cons.1 hp
    have hrest := ih hc fun own order h => ho own order (List.mem_cons_of_mem _ h)
    cases l with
    | resolver id host => exact hl.elim
    | host own => exact own.find_renumber key
    | context own order =>
      simp only [List.map_cons, Layer.renumber, first, hrest, own.find_renumber, own.id_renumber,
        ho own order List.mem_cons_self]
      split
      · cases order with
        | childFirst => exact Chain.otherwise_renumbered _ _
        | parentFirst => exact Chain.otherwise_renumbered _ _
      · rfl

theorem every_renumber {stand stand' : Option Holding → Except NamespaceError (List Artifact)}
    {chain : List Layer} (hp : ∀ l ∈ chain, l.isPlain)
    (ho : ∀ own order, .context own order ∈ chain → v'.isOpen (ρ own.id) = v.isOpen own.id) :
    v'.every stand' key (chain.map (Layer.renumber ρ)) =
      renumberedAll ρ (v.every stand key chain) := by
  induction chain with
  | nil => rfl
  | cons l chain ih =>
    obtain ⟨hl, hc⟩ := List.forall_mem_cons.1 hp
    have hrest := ih hc fun own order h => ho own order (List.mem_cons_of_mem _ h)
    cases l with
    | resolver id host => exact hl.elim
    | host own =>
      simp only [List.map_cons, Layer.renumber, every, own.find_renumber]
      rcases own.find key with e | _ | a <;> rfl
    | context own order =>
      simp only [List.map_cons, Layer.renumber, every, hrest, own.find_renumber, own.id_renumber,
        ho own order List.mem_cons_self]
      split
      · cases own.find key with
        | error e => rfl
        | ok mine =>
          cases v.every stand key chain with
          | error e => rfl
          | ok inherited => exact congrArg Except.ok (Chain.merge_renumbered order mine inherited)
      · rfl

end View

/-! ## Look-ups -/

theorem Source.orNotFound_renumbered (key : ArtifactKey) (id : ContextId) (found : Found) :
    orNotFound key (ρ id) (renumberedFound ρ found) =
      renumberedOne ρ (orNotFound key id found) := by
  rcases found with e | _ | a <;> rfl

namespace View.Matches

variable {v v' : View} {s : Source} {key : ArtifactKey}

theorem plain_renumber (h : v.Matches ρ v' s) : ∀ l ∈ (s.renumber ρ).layers, l.isPlain := by
  intro l hl
  rw [Source.layers_renumber] at hl
  obtain ⟨l', hl', rfl⟩ := List.mem_map.1 hl
  exact Layer.isPlain_renumber (h.plain l' hl')

theorem reach_eq (h : v.Matches ρ v' s) :
    v'.reach (s.renumber ρ).layers = (v.reach s.layers).map (Layer.renumber ρ) :=
  congrArg (s.head.renumber ρ :: ·) (takeWhile_renumber h.isHeld)

variable {σ σ' : Type} [Plugin.Backend σ] [Plugin.Backend σ'] {w : World σ} {w' : World σ'}

/-- **A look-up finds the same, renumbered**, whichever namespaces are active. -/
theorem lookup_eq (h : w.view.Matches ρ w'.view s) (active active' : Option String)
    (key : ArtifactKey) :
    (((s.renumber ρ).lookup active' key).run w').1 =
      renumberedOne ρ ((s.lookup active key).run w).1 := by
  have hid : (s.renumber ρ).id = ρ s.id := s.head.id_renumber
  rw [(Source.reads_lookup active key (Source.head_ne h.plain) σ w rfl).1,
    (Source.reads_lookup active' key (Source.head_ne h.plain_renumber) σ' w' rfl).1, h.reach_eq,
    hid, first_renumber (fun l hl => h.plain l (mem_of_mem_reach hl))
      fun own order hl => h.isOpen own order (mem_of_mem_reach hl)]
  exact Source.orNotFound_renumbered key s.id _

theorem lookupAll_eq (h : w.view.Matches ρ w'.view s) (active active' : Option String)
    (key : ArtifactKey) :
    (((s.renumber ρ).lookupAll active' key).run w').1 =
      renumberedAll ρ ((s.lookupAll active key).run w).1 := by
  rw [(Source.reads_lookupAll active s key σ w rfl).1,
    (Source.reads_lookupAll active' (s.renumber ρ) key σ' w' rfl).1, h.reach_eq]
  exact every_renumber (fun l hl => h.plain l (mem_of_mem_reach hl))
    fun own order hl => h.isOpen own order (mem_of_mem_reach hl)

end View.Matches

/-! ## Links -/

namespace View

variable {v v' : View}

theorem sourceIn_renumber (id : ContextId) (chain : List Layer)
    (hh : ∀ l ∈ chain, v'.isHeld (ρ l.id) = v.isHeld l.id) :
    v'.sourceIn (ρ id) (chain.map (Layer.renumber ρ)) =
      (v.sourceIn id chain).map (Source.renumber ρ) := by
  induction chain with
  | nil => rfl
  | cons l chain ih =>
    obtain ⟨hl, hc⟩ := List.forall_mem_cons.1 hh
    simp only [List.map_cons, sourceIn, Layer.id_renumber, Layer.delegates_renumber, hl, ih hc,
      ρ.apply_eq_iff_eq]
    split
    · split
      · rfl
      · split <;> rfl
    · rfl

end View

theorem mapM_renumbered {α : Type} (g : α → Except NamespaceError Artifact) (xs : List α) :
    xs.mapM (fun x => renumberedOne ρ (g x)) = renumberedAll ρ (xs.mapM g) := by
  induction xs with
  | nil => rfl
  | cons x xs ih =>
    rw [List.mapM_cons, List.mapM_cons, ih]
    cases g x with
    | error e => rfl
    | ok y => cases xs.mapM g <;> rfl

namespace View.Matches

variable {σ σ' : Type} [Plugin.Backend σ] [Plugin.Backend σ'] {w : World σ} {w' : World σ'}
  {s : Source} {c : Context}

/-- What matches about a source matches about what is behind it. -/
theorem of_suffix {v v' : View} {s' : Source} (h : v.Matches ρ v' s) (hs : s'.layers <:+ s.behind) :
    v.Matches ρ v' s' where
  plain l hl := h.plain l (List.mem_cons_of_mem _ (hs.subset hl))
  isOpen own order hl := h.isOpen own order (List.mem_cons_of_mem _ (hs.subset hl))
  isHeld l hl := h.isHeld l (hs.subset (List.mem_cons_of_mem _ hl))

theorem linked_eq (h : w.view.Matches ρ w'.view s) (active active' : Option String)
    (links : List String) :
    (s.renumber ρ).linked active' w' links = renumberedAll ρ (s.linked active w links) := by
  unfold Source.linked
  simp only [h.lookup_eq active active']
  exact mapM_renumbered _ links

/-- **Links are resolved to the same, renumbered.** -/
theorem resolveLinks_eq (h : w.view.Matches ρ w'.view c.source) (active active' : Option String)
    (a : Artifact) :
    (((c.renumber ρ).resolveLinks active' (a.renumber ρ)).run w').1 =
      renumberedAll ρ ((c.resolveLinks active a).run w).1 := by
  rw [Context.run_resolveLinks, Context.run_resolveLinks]
  simp only [a.context_renumber, c.id_renumber, c.behind_renumber, ρ.apply_eq_iff_eq]
  split
  · exact h.linked_eq active active' a.links
  · rw [View.sourceIn_renumber a.origin.context c.behind h.isHeld]
    cases hfound : w.view.sourceIn a.origin.context c.behind with
    | none => rfl
    | some s => exact (h.of_suffix (View.sourceIn_suffix hfound)).linked_eq active active' a.links

end View.Matches

/-! ## Plugins -/

namespace Bridge

variable {σ σ' : Type} [Plugin.Backend σ] [Plugin.Backend σ'] {w : World σ} {w' : World σ'}
  {c : Context}

theorem listed_renumber (h : w.view.Matches ρ w'.view c.source) (b : BridgeSettings)
    (active active' : Option String) (service : String) :
    listed b active' (c.renumber ρ) w' service = listed b active c w service := by
  unfold listed Context.findResources
  rw [c.source_renumber, h.lookupAll_eq active active']
  cases ((c.source.lookupAll active
    (.data (Naming.manifestPath b.manifestStart service))).run w).1 with
  | error e => rfl
  | ok manifests =>
    -- a manifest is read from its bytes
    exact congrArg List.eraseDups (List.flatMap_map ..)

theorem defines_renumber (h : w.view.Matches ρ w'.view c.source) (active active' : Option String)
    (provider : String) :
    defines active' (c.renumber ρ) w' provider = defines active c w provider := by
  unfold defines Context.resolve
  rw [c.source_renumber, h.lookup_eq active active']
  cases ((c.source.lookup active (.code provider)).run w).1 with
  | error e => rfl
  | ok a => exact decide_eq_decide.2 ρ.apply_eq_iff_eq

/-- **A context should have the same plugins, whatever its number is.** -/
theorem wanted_renumber (h : w.view.Matches ρ w'.view c.source) (b : BridgeSettings)
    (active active' : Option String) :
    wanted b active' (c.renumber ρ) w' = wanted b active c w := by
  have hprovided : provided b active' (c.renumber ρ) w' = provided b active c w :=
    funext fun service => by
      rw [provided, provided, listed_renumber h b active active',
        funext (defines_renumber h active active')]
  rw [wanted, wanted, hprovided]

end Bridge

end Tenancy
