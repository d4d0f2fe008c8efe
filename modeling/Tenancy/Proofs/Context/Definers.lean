import Tenancy.Plugin.Directory
import Tenancy.Proofs.Context.Links

/-!
# Proofs/Context/Definers — the walk by identity against the walk by delegation

    found in a source of the chain  →  its links are looked up in that source
    found through the resolver      →  its links are not looked up at all

A look-up goes along a chain by asking the delegates; links are resolved by going along the same
chain again, for the source whose identity the artifact bears.  Both go as far as delegates are held
(`View.Reaches`), so what the chain itself defined is found again.  What a resolver at its end gave
was defined by a source that nothing in the chain delegates to, and the second walk misses it
(`Context.resolveLinks_of_found`).
-/

namespace Tenancy

/-! ## Sources that are reached -/

/-- The holding of a layer that has one. -/
def Layer.own? : Layer → Option Holding
  | .context own _ => some own
  | .host own => some own
  | .resolver .. => none

theorem Layer.id_of_own {l : Layer} {own : Holding} (h : l.own? = some own) : l.id = own.id := by
  cases l with
  | context => cases h; rfl
  | host => cases h; rfl
  | resolver => cases h

namespace View

variable {v : View} {chain behind : List Layer} {s : Source}

/-- **A source is reached along a chain**: whatever is before it delegates, to what somebody
holds. -/
inductive Reaches (v : View) : List Layer → Source → Prop
  | here (l : Layer) (behind : List Layer) : Reaches v (l :: behind) ⟨l, behind⟩
  | behind {l l' : Layer} {behind : List Layer} {s : Source} (hd : l.delegates = true)
      (hl' : v.isHeld l'.id = true) (h : Reaches v (l' :: behind) s) :
      Reaches v (l :: l' :: behind) s

theorem Reaches.suffix (h : v.Reaches chain s) : s.layers <:+ chain := by
  induction h with
  | here l behind => exact List.suffix_rfl
  | behind _ _ _ ih => exact ih.trans (List.suffix_cons _ _)

theorem Reaches.id_mem (h : v.Reaches chain s) : s.id ∈ chain.map Layer.id :=
  List.mem_map_of_mem (h.suffix.subset List.mem_cons_self)

/-- **The walk by identity finds what is reached**, unless it is where the walk sets out. -/
theorem Reaches.sourceIn (h : v.Reaches chain s) (hids : (chain.map Layer.id).Nodup) :
    ∀ l behind, chain = l :: behind → s = ⟨l, behind⟩ ∨
      l.delegates = true ∧ s.id ≠ l.id ∧ v.sourceIn s.id behind = some s := by
  induction h with
  | here l behind =>
    rintro _ _ ⟨⟩
    exact .inl rfl
  | @behind l l' behind s hd hl' h ih =>
    rintro _ _ ⟨⟩
    obtain ⟨hl, hids⟩ := List.nodup_cons.1 hids
    refine .inr ⟨hd, fun he => hl (he ▸ h.id_mem), ?_⟩
    rw [View.sourceIn, if_pos hl']
    rcases ih hids l' behind rfl with rfl | ⟨hd', hne, hs⟩
    · exact if_pos rfl
    · rw [if_neg (Ne.symm hne), if_pos hd', hs]

/-- The walk by identity finds nothing of an identity that is not in the chain. -/
theorem sourceIn_eq_none {id : ContextId} (h : id ∉ chain.map Layer.id) :
    v.sourceIn id chain = none := by
  induction chain with
  | nil => rfl
  | cons l behind ih =>
    rw [List.map_cons, List.mem_cons, not_or] at h
    rw [View.sourceIn, if_neg (Ne.symm h.1), ih h.2, ite_self, ite_self]

/-! ## What gave a match -/

/-- **The artifact was given by a source that is reached**: one that has it under the key, or a
resolver that was given it. -/
def Gave (v : View) (given : Option Holding → Prop) (key : ArtifactKey) (a : Artifact)
    (chain : List Layer) : Prop :=
  ∃ s, v.Reaches chain s ∧ ((∃ own, s.head.own? = some own ∧ own.Gives key a) ∨
    ∃ id host, s.head = .resolver id host ∧ given host)

variable {key : ArtifactKey} {a : Artifact} {given : Option Holding → Prop}

theorem Gave.of_find {l : Layer} {own : Holding} (hl : l.own? = some own)
    (hf : own.find key = .ok (some a)) : v.Gave given key a (l :: behind) :=
  ⟨_, .here l behind, .inl ⟨own, hl, Holding.gives_of_find hf⟩⟩

theorem Gave.of_resolver {id : ContextId} {host : Option Holding} (h : given host) :
    v.Gave given key a (.resolver id host :: behind) :=
  ⟨_, .here _ behind, .inr ⟨id, host, rfl, h⟩⟩

theorem Gave.imp {given' : Option Holding → Prop} (h : v.Gave given key a chain)
    (hgiven : ∀ host, given host → given' host) : v.Gave given' key a chain := by
  obtain ⟨s, hs, hown | ⟨id, host, hhead, hhost⟩⟩ := h
  · exact ⟨s, hs, .inl hown⟩
  · exact ⟨s, hs, .inr ⟨id, host, hhead, hgiven host hhost⟩⟩

/-- What was given behind a context is what a walk from its delegate was given. -/
theorem Gave.inherited {own : Holding} {order : ResolutionOrder}
    (hne : (behind.takeWhile fun b => v.isHeld b.id) ≠ [])
    (h : (behind.takeWhile fun b => v.isHeld b.id) = v.reach behind → v.Gave given key a behind) :
    v.Gave given key a (.context own order :: behind) := by
  cases behind with
  | nil => exact absurd rfl hne
  | cons l behind =>
    cases hl : v.isHeld l.id with
    | false => exact absurd (by rw [List.takeWhile_cons, hl]; rfl) hne
    | true =>
      obtain ⟨s, hs, hgave⟩ := h (by rw [List.takeWhile_cons, hl]; rfl)
      exact ⟨s, .behind rfl hl hs, hgave⟩

/-- **One match was given by a source that is reached.** -/
theorem first_given {stand : Option Holding → Found}
    (hf : v.first stand key (v.reach chain) = .ok (some a)) :
    v.Gave (fun host => stand host = .ok (some a)) key a chain := by
  induction chain with
  | nil => cases hf
  | cons l behind ih =>
    cases l with
    | host own => exact .of_find rfl hf
    | resolver id host => exact .of_resolver hf
    | context own order =>
      simp only [reach, first] at hf
      split at hf
      · have hfound : own.find key = .ok (some a) ∨
            v.first stand key (behind.takeWhile fun b => v.isHeld b.id) = .ok (some a) := by
          cases order with
          | childFirst => exact (Chain.otherwise_eq_some.1 hf).imp_right And.right
          | parentFirst => exact (Chain.otherwise_eq_some.1 hf).symm.imp_left And.right
        rcases hfound with hown | hbehind
        · exact .of_find rfl hown
        · refine .inherited (fun hnil => ?_) fun hreach => ih (hreach ▸ hbehind)
          rw [hnil] at hbehind
          cases hbehind
      · cases hf

/-- Every one of all matches was. -/
theorem every_given {stand : Option Holding → Except NamespaceError (List Artifact)}
    {found : List Artifact} (hf : v.every stand key (v.reach chain) = .ok found) (ha : a ∈ found) :
    v.Gave (fun host => ∃ found, stand host = .ok found ∧ a ∈ found) key a chain := by
  induction chain generalizing found with
  | nil =>
    cases hf
    cases ha
  | cons l behind ih =>
    cases l with
    | host own =>
      obtain ⟨mine, hown, rfl⟩ := every_host_ok hf
      obtain rfl : mine = some a := Option.mem_toList.1 ha
      exact .of_find rfl hown
    | resolver id host => exact .of_resolver ⟨found, hf, ha⟩
    | context own order =>
      obtain ⟨mine, inherited, hown, hrest, rfl⟩ := every_context_ok hf
      have hmem : a ∈ mine.toList ∨ a ∈ inherited := by
        cases order with
        | childFirst => exact List.mem_append.1 ha
        | parentFirst => exact (List.mem_append.1 ha).symm
      rcases hmem with hmine | hbehind
      · obtain rfl : mine = some a := Option.mem_toList.1 hmine
        exact .of_find rfl hown
      · refine .inherited (fun hnil => ?_) fun hreach => ih (hreach ▸ hrest) hbehind
        rw [hnil] at hrest
        cases hrest
        cases hbehind

end View

/-! ## Who defined what is found -/

/-- **The source defined the artifact**: the artifact is an entry of its own. -/
def Source.Defined (s : Source) (a : Artifact) : Prop :=
  ∃ own key, s.head.own? = some own ∧ own.Gives key a

theorem Source.Defined.id_eq {s : Source} {a : Artifact} (h : s.Defined a) :
    s.id = a.origin.context := by
  obtain ⟨own, key, hown, hgives⟩ := h
  exact (Layer.id_of_own hown).trans hgives.context_eq.symm

namespace View

/-- The artifact was defined by what a resolver of the chain stands for. -/
def ThroughResolver (v : View) (active : Option String) (chain : List Layer) (a : Artifact) :
    Prop :=
  ∃ id host behind picked s, v.Reaches chain ⟨.resolver id host, behind⟩ ∧
    v.pick active host = some picked ∧ v.Reaches picked.layers s ∧ s.Defined a

/-- What was given was defined along the chain, or by what a resolver stands for. -/
theorem Gave.defined {v : View} {active : Option String} {chain : List Layer} {key : ArtifactKey}
    {a : Artifact} {given : Option Holding → Prop} (h : v.Gave given key a chain)
    (hgiven : ∀ host, given host →
      ∃ picked, v.pick active host = some picked ∧ v.Gave (fun _ => False) key a picked.layers) :
    (∃ s, v.Reaches chain s ∧ s.Defined a) ∨ v.ThroughResolver active chain a := by
  obtain ⟨⟨head, behind⟩, hs, ⟨own, hown, hgives⟩ | ⟨id, host, rfl, hhost⟩⟩ := h
  · exact .inl ⟨_, hs, own, key, hown, hgives⟩
  · obtain ⟨picked, hpick, s, hpicked, ⟨own, hown, hgives⟩ | ⟨_, _, _, hnone⟩⟩ := hgiven host hhost
    · exact .inr ⟨id, host, behind, picked, s, hs, hpick, hpicked, own, key, hown, hgives⟩
    · exact hnone.elim

end View

namespace Context

variable {σ : Type} [Plugin.Backend σ] {w w' : World σ} {active : Option String} {c : Context}
  {a : Artifact}

/-- **The artifact is found through the context**: it is the match of a look-up, or one of all
matches. -/
def Finds (c : Context) (active : Option String) (w : World σ) (a : Artifact) : Prop :=
  ∃ key, ((c.source.lookup active key).run w).1 = .ok a ∨
    ∃ found, ((c.source.lookupAll active key).run w).1 = .ok found ∧ a ∈ found

theorem Finds.defined (h : c.Finds active w a) :
    (∃ s, w.view.Reaches c.source.layers s ∧ s.Defined a) ∨
      w.view.ThroughResolver active c.source.layers a := by
  obtain ⟨key, hone | ⟨found, hall, ha⟩⟩ := h
  · rw [(Source.reads_lookup active key (by simp [source]) σ w rfl).1] at hone
    refine (View.first_given (Source.orNotFound_ok hone)).defined fun host hstand => ?_
    rw [View.resolved] at hstand
    cases hpick : w.view.pick active host with
    | none => rw [hpick] at hstand; cases hstand
    | some picked =>
      rw [hpick] at hstand
      exact ⟨picked, rfl, (View.first_given hstand).imp fun host hnone => by cases hnone⟩
  · rw [(Source.reads_lookupAll active c.source key σ w rfl).1] at hall
    refine (View.every_given hall ha).defined fun host hgiven => ?_
    obtain ⟨found, hstand, ha⟩ := hgiven
    rw [View.resolvedAll] at hstand
    cases hpick : w.view.pick active host with
    | none =>
      rw [hpick] at hstand
      cases hstand
      cases ha
    | some picked =>
      rw [hpick] at hstand
      refine ⟨picked, rfl, (View.every_given hstand ha).imp fun host hnone => ?_⟩
      obtain ⟨found, ⟨⟩, hin⟩ := hnone
      cases hin

/-! ## Links of what is found -/

/-- **The sources that look-ups come to are told apart by their identities.** -/
structure Identified (c : Context) (active : Option String) (v : View) : Prop where
  chain : (c.source.layers.map Layer.id).Nodup
  apart : ∀ id host, .resolver id host ∈ c.source.layers →
    ∀ picked, v.pick active host = some picked →
    ∀ l ∈ picked.layers, l.id ∉ c.source.layers.map Layer.id

/-- **Links of what is found are looked up in the source that defined it, if the chain reaches
it.**  Where an artifact is found through a context, as long as nothing that look-ups see has
changed,

* it was defined by a source along the chain, and its links are looked up in that source in turn, up
  to the first failure;
* or it was defined by what the resolver of the chain stands for, and its links are refused: the
  answer is that the artifact itself was not found. -/
theorem resolveLinks_of_found (hids : c.Identified active w.view) (ha : c.Finds active w a)
    (hview : w'.view = w.view) (active' : Option String) :
    (∃ s, w.view.Reaches c.source.layers s ∧ s.Defined a ∧
      ((c.resolveLinks active' a).run w').1 = s.linked active' w' a.links) ∨
    w.view.ThroughResolver active c.source.layers a ∧
      ((c.resolveLinks active' a).run w').1 = .error (.artifactNotFound a.key c.id) := by
  rw [run_resolveLinks, hview]
  rcases ha.defined with ⟨s, hs, hdefined⟩ | hthrough
  · refine .inl ⟨s, hs, hdefined, ?_⟩
    rw [← hdefined.id_eq]
    rcases hs.sourceIn hids.chain _ _ rfl with rfl | ⟨-, hne, hfound⟩
    · exact if_pos rfl
    · rw [if_neg (show s.id ≠ c.id from hne), show c.behind = c.source.behind from rfl, hfound]
  · refine .inr ⟨hthrough, ?_⟩
    obtain ⟨id, host, behind, picked, s, hresolver, hpick, hs, hdefined⟩ := hthrough
    have hnot : a.origin.context ∉ c.source.layers.map Layer.id := by
      rw [← hdefined.id_eq]
      exact hids.apart id host (hresolver.suffix.subset List.mem_cons_self) picked hpick s.head
        (hs.suffix.subset List.mem_cons_self)
    rw [Source.layers, List.map_cons, List.mem_cons, not_or] at hnot
    rw [if_neg (show a.origin.context ≠ c.id from hnot.1),
      show w.view.sourceIn a.origin.context c.behind = none from View.sourceIn_eq_none hnot.2]

/-- A unit that links to `b.B`. -/
def linkingUnit : Bytes :=
  UnitHeader.encode { implemented := ["b.B"] } []

/-- A tenant with two units, the first of which links to the second. -/
def linkedTenant : Context where
  own := ⟨⟨1⟩, "ns1", .ofList [(.code "a.A", .compress (.code "a.A") linkingUnit),
    (.code "b.B", .compress (.code "b.B") [])], .descriptor⟩
  order := .childFirst
  behind := []

def linkedTenantBound : World Plugin.Directory :=
  { World.initial ∅ with nextId := 5, bound := .ofList [("ns1", linkedTenant)] }

/-- A context that has a unit of its own and delegates to a resolver. -/
def beforeResolver : Context where
  own := ⟨⟨3⟩, "lib", .ofList [(.code "c.C", .compress (.code "c.C") linkingUnit)], .descriptor⟩
  order := .childFirst
  behind := [.resolver ⟨2⟩ none]

/-- A context that has nothing and delegates to it. -/
def overResolver : Context where
  own := ⟨⟨4⟩, "app", ∅, .raw⟩
  order := .parentFirst
  behind := beforeResolver.source.layers

/-- What the second context of the chain defined is found through the first, and its link is looked
up in the second, which has it through the resolver. -/
theorem resolveLinks_of_found_delegate :
    let a : Artifact := ⟨.code "c.C", linkingUnit, ⟨⟨3⟩, "lib"⟩, ["b.B"]⟩
    ((overResolver.resolve (some "ns1") "c.C").run linkedTenantBound).1 = .ok a ∧
      ∃ s : Source, s.Defined a ∧
        ((overResolver.resolveLinks (some "ns1") a).run linkedTenantBound).1 =
          s.linked (some "ns1") linkedTenantBound a.links ∧
        ((overResolver.resolveLinks (some "ns1") a).run linkedTenantBound).1.isOk = true := by
  intro a
  have hfound : ((overResolver.resolve (some "ns1") "c.C").run linkedTenantBound).1 = .ok a := by
    decide +kernel
  have hids : overResolver.Identified (some "ns1") linkedTenantBound.view := by
    refine ⟨by decide, fun id host hl picked hpick l hl' => ?_⟩
    obtain rfl : host = none := by
      simp [overResolver, beforeResolver, source, Source.layers] at hl
      exact hl.2
    obtain rfl : linkedTenant.source = picked := Option.some.inj hpick
    obtain rfl := List.mem_singleton.1 hl'
    decide
  have hok : ((overResolver.resolveLinks (some "ns1") a).run linkedTenantBound).1.isOk = true := by
    decide +kernel
  refine ⟨hfound, ?_⟩
  have hview : linkedTenantBound.view = linkedTenantBound.view := rfl
  rcases resolveLinks_of_found hids ⟨_, .inl hfound⟩ hview (some "ns1") with
    ⟨s, -, hdefined, hlinks⟩ | ⟨-, hmissed⟩
  · exact ⟨s, hdefined, hlinks, hok⟩
  · rw [hmissed] at hok
    cases hok

/-- What the tenant defined is found through the resolver, and its link, which the tenant has, is
refused. -/
theorem resolveLinks_of_found_tenant :
    let a : Artifact := ⟨.code "a.A", linkingUnit, ⟨⟨1⟩, "ns1"⟩, ["b.B"]⟩
    ((overResolver.resolve (some "ns1") "a.A").run linkedTenantBound).1 = .ok a ∧
      linkedTenant.source.Defined a ∧
      linkedTenant.source.linked (some "ns1") linkedTenantBound a.links =
        .ok [⟨.code "b.B", [], ⟨⟨1⟩, "ns1"⟩, []⟩] ∧
      ((overResolver.resolveLinks (some "ns1") a).run linkedTenantBound).1 =
        .error (.artifactNotFound (.code "a.A") ⟨4⟩) := by
  intro a
  refine ⟨by decide +kernel, ⟨linkedTenant.own, .code "a.A", rfl, ?_⟩, by decide +kernel,
    by decide +kernel⟩
  exact Holding.gives_of_find (by decide +kernel)

end Context

end Tenancy
