import Tenancy.Proofs.Context.Order
import Tenancy.Proofs.Program.Discipline

/-!
# Proofs/Context/Links — links, and who defined what is found

    links of a  =  look-ups in the source that defined a, one after another

where that source is the context that is asked, or one that its chain holds
(`Context.run_resolveLinks`).  Whatever is had through a context, as a link or by a look-up, was
defined by a holding of its chain (`Context.Obtains.origin_eq`).
-/

namespace Tenancy

/-! ## Sources in a chain -/

namespace View

variable {v : View}

/-- The source with an identity in a chain, as far as it is held. -/
def sourceIn (v : View) (id : ContextId) : List Layer → Option Source
  | [] => none
  | l :: behind =>
    if v.isHeld l.id = true then
      if l.id = id then some ⟨l, behind⟩
      else if l.delegates = true then sourceIn v id behind
      else none
    else none

theorem reads_findSource (id : ContextId) (layers : List Layer) :
    (Chain.findSource id layers).Reads v (v.sourceIn id layers) := by
  induction layers with
  | nil => exact .done _
  | cons l behind ih =>
    refine (Program.Reads.isHeld l.id).bind ?_
    rw [sourceIn]
    split
    · split
      · exact .done _
      · split
        · exact ih
        · exact .done _
    · exact .done _

/-- What is found in a chain is a part of it. -/
theorem sourceIn_suffix {id : ContextId} {layers : List Layer} {s : Source}
    (h : v.sourceIn id layers = some s) : s.layers <:+ layers := by
  induction layers with
  | nil => cases h
  | cons l behind ih =>
    rw [sourceIn] at h
    split at h
    · split at h
      · cases h
        exact List.suffix_rfl
      · split at h
        · exact (ih h).trans (List.suffix_cons l behind)
        · cases h
    · cases h

end View

/-! ## Links -/

/-- Results in turn, each of which is read off the view. -/
theorem reads_collect {α β : Type} {v : View} {f : α → Program (Except NamespaceError β)}
    {g : α → Except NamespaceError β} (hf : ∀ x, (f x).Reads v (g x)) (xs : List α) :
    (collect f xs).Reads v (xs.mapM g) := by
  induction xs with
  | nil => exact .done _
  | cons x xs ih =>
    refine (hf x).bind ?_
    rw [List.mapM_cons]
    cases g x with
    | error e => exact .done _
    | ok y =>
      refine ih.bind ?_
      cases xs.mapM g <;> exact .done _

namespace Source

variable {σ : Type} [Plugin.Backend σ] {s : Source} {w : World σ}

/-- What a source answers to look-ups of links, in turn. -/
def linked (active : Option String) (s : Source) (w : World σ) (links : List String) :
    Except NamespaceError (List Artifact) :=
  links.mapM fun link => ((s.lookup active (.code link)).run w).1

/-- Every look-up is read off the view, one through a resolver too. -/
theorem exists_reads_lookup (v : View) (active : Option String) (s : Source) (key : ArtifactKey) :
    ∃ x, (s.lookup active key).Reads v x := by
  obtain ⟨head, behind⟩ := s
  cases head with
  | context own order => exact ⟨_, reads_lookup active key nofun⟩
  | host own => exact ⟨_, reads_lookup active key nofun⟩
  | resolver id host =>
    have hpick := Chain.reads_pick (v := v) active host
    cases hpicked : v.pick active host with
    | none =>
      rw [hpicked] at hpick
      exact ⟨_, hpick.bind (.done _)⟩
    | some picked =>
      rw [hpicked] at hpick
      exact ⟨_, hpick.bind ((Chain.reads_askBound picked).bind (.done _))⟩

theorem reads_linked (active : Option String) (s : Source) (w : World σ) (links : List String) :
    (collect (fun link => s.lookup active (.code link)) links).Reads w.view
      (s.linked active w links) :=
  reads_collect (fun link =>
    (exists_reads_lookup w.view active s (.code link)).elim fun _ hx => hx.of_run) links

end Source

namespace Context

variable {σ : Type} [Plugin.Backend σ]

/-- **The links of an artifact are looked up in the source that defined it**, if that is the context
or one of its chain. -/
theorem run_resolveLinks (c : Context) (active : Option String) (a : Artifact) (w : World σ) :
    ((c.resolveLinks active a).run w).1 =
      if a.origin.context = c.id then c.source.linked active w a.links
      else match w.view.sourceIn a.origin.context c.behind with
        | some s => s.linked active w a.links
        | none => .error (.artifactNotFound a.key c.id) := by
  unfold resolveLinks
  split
  · exact (Source.reads_linked active c.source w a.links σ w rfl).1
  · obtain ⟨hfound, hcalm⟩ := View.reads_findSource a.origin.context c.behind σ w rfl
    rw [Program.run_bind, hfound]
    cases hsource : w.view.sourceIn a.origin.context c.behind with
    | none => rfl
    | some s => exact (Source.reads_linked active s w a.links σ _ hcalm.view_eq).1

end Context

/-! ## Who defined what is found -/

/-- The holding is that of a layer of the source. -/
def Source.Holds (s : Source) (h : Holding) : Prop :=
  (∃ order, .context h order ∈ s.layers) ∨ .host h ∈ s.layers

theorem Chain.mem_of_mem_sequence {h : Holding} {chain : List Layer} (hs : h ∈ sequence chain) :
    (∃ order, .context h order ∈ chain) ∨ .host h ∈ chain := by
  induction chain with
  | nil => cases hs
  | cons l behind ih =>
    have hbehind : h ∈ sequence behind →
        (∃ order, .context h order ∈ l :: behind) ∨ .host h ∈ l :: behind := fun hs =>
      (ih hs).imp (fun ⟨order, hl⟩ => ⟨order, List.mem_cons_of_mem _ hl⟩) (List.mem_cons_of_mem _)
    cases l with
    | resolver id host => cases hs
    | host own =>
      obtain rfl := List.mem_singleton.1 hs
      exact .inr List.mem_cons_self
    | context own order =>
      cases order with
      | childFirst =>
        rcases List.mem_cons.1 hs with rfl | hs
        · exact .inl ⟨_, List.mem_cons_self⟩
        · exact hbehind hs
      | parentFirst =>
        rcases List.mem_append.1 hs with hs | hs
        · exact hbehind hs
        · obtain rfl := List.mem_singleton.1 hs
          exact .inl ⟨_, List.mem_cons_self⟩

namespace Source

variable {σ : Type} [Plugin.Backend σ] {s : Source} {w : World σ} {active : Option String}
  {key : ArtifactKey}

theorem holds_of_mem_holders {v : View} {h : Holding}
    (hh : h ∈ Chain.holders key (v.reach s.layers)) : s.Holds h :=
  (Chain.mem_of_mem_sequence (List.mem_filter.1 hh).1).imp
    (fun ⟨order, hl⟩ => ⟨order, View.mem_of_mem_reach hl⟩) View.mem_of_mem_reach

theorem origin_of_lookup (hp : ∀ l ∈ s.layers, l.isPlain) {a : Artifact}
    (ha : ((s.lookup active key).run w).1 = .ok a) : ∃ h, s.Holds h ∧ a.origin = h.origin := by
  rw [(reads_lookup active key (head_ne hp) σ w rfl).1] at ha
  obtain ⟨h, rest, hh, hgives⟩ := View.first_ok (fun l hl => hp l (View.mem_of_mem_reach hl))
    (orNotFound_ok ha)
  exact ⟨h, holds_of_mem_holders (hh ▸ List.mem_cons_self), hgives.origin_eq⟩

theorem origin_of_lookupAll (hp : ∀ l ∈ s.layers, l.isPlain) {found : List Artifact}
    (hf : ((s.lookupAll active key).run w).1 = .ok found) {a : Artifact} (ha : a ∈ found) :
    ∃ h, s.Holds h ∧ a.origin = h.origin := by
  rw [(reads_lookupAll active s key σ w rfl).1] at hf
  have hall := View.every_ok (fun l hl => hp l (View.mem_of_mem_reach hl)) hf
  obtain ⟨h, hh, hgives⟩ := Discipline.exists_beside hall.flip ha
  exact ⟨h, holds_of_mem_holders hh, Holding.Gives.origin_eq hgives⟩

theorem origin_of_linked (hp : ∀ l ∈ s.layers, l.isPlain) {links : List String}
    {found : List Artifact} (hf : s.linked active w links = .ok found) {a : Artifact}
    (ha : a ∈ found) : ∃ h, s.Holds h ∧ a.origin = h.origin := by
  unfold linked at hf
  induction links generalizing found with
  | nil =>
    cases hf
    cases ha
  | cons link links ih =>
    rw [List.mapM_cons] at hf
    cases hone : ((s.lookup active (.code link)).run w).1 with
    | error e => rw [hone] at hf; cases hf
    | ok b =>
      cases hrest : links.mapM fun link => ((s.lookup active (.code link)).run w).1 with
      | error e => rw [hone, hrest] at hf; cases hf
      | ok rest =>
        rw [hone, hrest] at hf
        cases hf
        rcases List.mem_cons.1 ha with rfl | ha
        · exact origin_of_lookup hp hone
        · exact ih hrest ha

/-- What is behind a source is its own. -/
theorem Holds.of_suffix {s' : Source} {h : Holding} (hh : s'.Holds h)
    (hs : s'.layers <:+ s.behind) : s.Holds h :=
  hh.imp (fun ⟨order, hl⟩ => ⟨order, List.mem_cons_of_mem _ (hs.subset hl)⟩)
    fun hl => List.mem_cons_of_mem _ (hs.subset hl)

end Source

namespace Context

variable {σ : Type} [Plugin.Backend σ]

/-- **The artifact is had through the context**, by a look-up or as a link of any artifact. -/
inductive Obtains (c : Context) (w : World σ) (a : Artifact) : Prop
  | resolve {active : Option String} {id : String} (h : ((c.resolve active id).run w).1 = .ok a)
  | enumerate {active : Option String} {id : String} {found : List Artifact}
      (h : ((c.enumerate active id).run w).1 = .ok found) (ha : a ∈ found)
  | findResource {active : Option String} {path : String}
      (h : ((c.findResource active path).run w).1 = .ok a)
  | findResources {active : Option String} {path : String} {found : List Artifact}
      (h : ((c.findResources active path).run w).1 = .ok found) (ha : a ∈ found)
  | resolveLinks {active : Option String} {b : Artifact} {found : List Artifact}
      (h : ((c.resolveLinks active b).run w).1 = .ok found) (ha : a ∈ found)

/-- **What is had through a context was defined in its chain.** -/
theorem Obtains.origin_eq {c : Context} {w : World σ} {a : Artifact} (ha : c.Obtains w a)
    (hp : ∀ l ∈ c.source.layers, l.isPlain) : ∃ h, c.source.Holds h ∧ a.origin = h.origin := by
  cases ha with
  | resolve h => exact Source.origin_of_lookup hp h
  | enumerate h ha => exact Source.origin_of_lookupAll hp h ha
  | findResource h => exact Source.origin_of_lookup hp h
  | findResources h ha => exact Source.origin_of_lookupAll hp h ha
  | @resolveLinks active b found h ha =>
    rw [run_resolveLinks] at h
    split at h
    · exact Source.origin_of_linked hp h ha
    · cases hsource : w.view.sourceIn b.origin.context c.behind with
      | none => rw [hsource] at h; cases h
      | some s =>
        rw [hsource] at h
        have hs := View.sourceIn_suffix hsource
        obtain ⟨own, hown, horigin⟩ := Source.origin_of_linked
          (fun l hl => hp l (List.mem_cons_of_mem _ (hs.subset hl))) h ha
        exact ⟨own, hown.of_suffix (s := c.source) hs, horigin⟩

end Context

end Tenancy
