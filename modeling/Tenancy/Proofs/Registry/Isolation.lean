import Mathlib.Logic.Equiv.Basic
import Tenancy.Proofs.Config.FailedStart
import Tenancy.Proofs.Context.Renumbering

/-!
# Proofs/Registry/Isolation — a tenant cannot tell what the others do

    answers and contents on a name  =  those that the calls on this name alone would give

so of two runs with the same calls on a name, whatever the calls on other names are, the one does to
the name what the other does (`Registry.meaningAll_callsOn`).  The runs take identities and handles
in another order, and that is all that differs: the two contexts, what is had through them and what
they have in the driver directory are the same up to a renumbering (`Registry.tenants_isolated`).
-/

namespace Tenancy

open Plugin (Directory)
open Plugin.Directory (offer)

/-- What is there in both or in neither is related, if what is told of it is the same. -/
theorem rel_of_map_eq {α β γ : Type} {R : α → β → Prop} {f : α → γ} {g : β → γ} {x : Option α}
    {y : Option β} (h : x.map f = y.map g)
    (hR : ∀ a b, x = some a → y = some b → f a = g b → R a b) : Option.Rel R x y := by
  cases x with
  | none =>
    cases y with
    | none => exact .none
    | some b => cases h
  | some a =>
    cases y with
    | none => cases h
    | some b => exact .some (hR a b rfl rfl (Option.some.inj h))

namespace Registry

/-! ## Calls on a name -/

/-- The name that a call is about. -/
def Call.name : Call → String
  | .add name _ => name
  | .addWithOrder name _ _ => name
  | .apply _ c => c.name
  | .remove name => name

/-- The calls on a name. -/
def callsOn (name : String) (cs : List Call) : List Call :=
  cs.filter fun c => c.name = name

/-- What the calls on a name were answered. -/
def answersOn (name : String) (cs : List Call) (answers : List (Except NamespaceError Bool)) :
    List (Except NamespaceError Bool) :=
  ((cs.zip answers).filter fun p => p.1.name = name).map Prod.snd

variable {s : RegistrySettings} {name : String}

theorem get?_put_ne {name' : String} (h : name' ≠ name) (order : ResolutionOrder) (m : Contents)
    (entries : Except NamespaceError ArtifactMap) :
    (put name order m entries).2.get? name' = m.get? name' := by
  cases entries with
  | error e => rfl
  | ok entries => exact Table.get?_insert_ne _ _ h

/-- What is put under a name does not depend on the others. -/
theorem put_congr {m m' : Contents} (h : m.get? name = m'.get? name) (order : ResolutionOrder)
    (entries : Except NamespaceError ArtifactMap) :
    (put name order m entries).1 = (put name order m' entries).1 ∧
      (put name order m entries).2.get? name = (put name order m' entries).2.get? name := by
  cases entries with
  | error e => exact ⟨rfl, h⟩
  | ok entries => exact ⟨rfl, by rw [put, put, Table.get?_insert_self, Table.get?_insert_self]⟩

namespace Call

/-- **A call leaves the other names alone.** -/
theorem get?_meaning_ne {c : Call} (h : c.name ≠ name) (m : Contents) :
    (c.meaning s m).2.get? name = m.get? name := by
  cases c with
  | add name' ds => exact get?_put_ne (Ne.symm h) _ _ _
  | addWithOrder name' ds order => exact get?_put_ne (Ne.symm h) _ _ _
  | apply t n =>
    simp only [meaning]
    split
    · rfl
    · exact get?_put_ne (Ne.symm h) _ _ _
  | remove name' => exact Table.get?_erase_ne _ (Ne.symm h)

/-- **What a call answers and does depends on its own name only.** -/
theorem meaning_congr (c : Call) {m m' : Contents} (h : m.get? c.name = m'.get? c.name) :
    (c.meaning s m).1 = (c.meaning s m').1 ∧
      (c.meaning s m).2.get? c.name = (c.meaning s m').2.get? c.name := by
  cases c with
  | add name ds => exact put_congr h _ _
  | addWithOrder name ds order => exact put_congr h _ _
  | apply t n =>
    have hheld : ∀ entries order, isHeld n.name entries order m = isHeld n.name entries order m' :=
      fun entries order => by
        rw [isHeld, isHeld, show m.get? n.name = m'.get? n.name from h]
    simp only [meaning, hheld]
    split
    · exact ⟨rfl, h⟩
    · exact put_congr h _ _
  | remove name =>
    refine ⟨?_, ?_⟩
    · rw [meaning, meaning, Table.contains, Table.contains, show m.get? name = m'.get? name from h]
    · exact (Table.get?_erase_self m name).trans (Table.get?_erase_self m' name).symm

end Call

/-- **Calls on a name answer and leave what they would without the other calls.** -/
theorem meaningAll_callsOn (cs : List Call) {m m' : Contents} (h : m.get? name = m'.get? name) :
    answersOn name cs (meaningAll s cs m).1 = (meaningAll s (callsOn name cs) m').1 ∧
      (meaningAll s cs m).2.get? name = (meaningAll s (callsOn name cs) m').2.get? name := by
  induction cs generalizing m m' with
  | nil => exact ⟨rfl, h⟩
  | cons c cs ih =>
    by_cases hc : c.name = name
    · subst hc
      obtain ⟨hanswer, hnext⟩ := c.meaning_congr (s := s) h
      obtain ⟨hanswers, hlast⟩ := ih hnext
      rw [callsOn, List.filter_cons_of_pos (by simp), ← callsOn, meaningAll, meaningAll, ← hanswers,
        ← hlast, ← hanswer]
      refine ⟨?_, rfl⟩
      rw [answersOn, List.zip_cons_cons, List.filter_cons_of_pos (by simp)]
      rfl
    · rw [callsOn, List.filter_cons_of_neg (by simpa using hc), ← callsOn, meaningAll]
      obtain ⟨hanswers, hlast⟩ := ih ((Call.get?_meaning_ne hc m).trans h)
      refine ⟨?_, hlast⟩
      rw [answersOn, List.zip_cons_cons, List.filter_cons_of_neg (by simpa using hc)]
      exact hanswers

/-! ## Contexts of a name -/

theorem contextOf_renumber {ρ : Renumbering} (hρ : ∀ host, s.host = some host → ρ host.id = host.id)
    (id : ContextId) (entries : ArtifactMap) (order : ResolutionOrder) :
    (contextOf s id name entries order).renumber ρ = contextOf s (ρ id) name entries order := by
  have hhost : ((s.host.map Layer.host).toList).map (Layer.renumber ρ) =
      (s.host.map Layer.host).toList := by
    cases hs : s.host with
    | none => rfl
    | some host =>
      have hsame : host.renumber ρ = host := by rw [Holding.renumber, hρ host hs]
      exact congrArg (fun h => [Layer.host h]) hsame
  exact congrArg (Context.mk _ _) hhost

variable {mine mine' : ContextId → Prop} {gs gs' : List Duty} {c c' : Context}

namespace Coherent

variable {σ : Type} {w w' : World σ}

/-- A bound context is told by its identity and the contents of its name. -/
theorem eq_contextOf (h : Coherent s mine gs w) (hc : w.bound.get? name = some c) :
    c = contextOf s c.id name c.own.entries c.order := by
  obtain ⟨-, id, entries, order, rfl⟩ := h.bound name c hc
  rfl

theorem isPlain_layers (h : Coherent s mine gs w) (hc : w.bound.get? name = some c) :
    ∀ l ∈ c.source.layers, l.isPlain :=
  (h.agree h (fun _ _ => rfl) hc hc).plain

/-- Two names are not bound to one context. -/
theorem name_eq_of_id (h : Coherent s mine gs w) {name' : String}
    (hc : w.bound.get? name = some c) (hc' : w.bound.get? name' = some c') (hid : c.id = c'.id) :
    name = name' := by
  have hnodup : (w.bound.values.map Context.id).Nodup := (List.nodup_append.1 h.sole).2.1
  have hsame : c = c' := List.inj_on_of_nodup_map hnodup ((w.bound.mem_values_iff c).2 ⟨name, hc⟩)
    ((w.bound.mem_values_iff c').2 ⟨name', hc'⟩) hid
  rw [← h.name_of_bound hc, hsame, h.name_of_bound hc']

/-- What holds entries for a bound context is its own or the host. -/
theorem holds_of_bound (h : Coherent s mine gs w) (hc : w.bound.get? name = some c) {own : Holding}
    (hown : c.source.Holds own) : own = c.own ∨ s.host = some own := by
  obtain ⟨-, id, entries, order, rfl⟩ := h.bound name c hc
  rcases hown with ⟨order', hl⟩ | hl
  · rcases List.mem_cons.1 hl with hl | hl
    · cases hl
      exact .inl rfl
    · obtain ⟨host, -, hl⟩ := mem_hostLayers hl
      cases hl
  · rcases List.mem_cons.1 hl with hl | hl
    · cases hl
    · obtain ⟨host, hhost, hl⟩ := mem_hostLayers hl
      cases hl
      exact .inr hhost

end Coherent

/-- The renumbering takes the one context to the other and leaves the host alone, which is held in
both worlds or in neither. -/
structure Renumbers {σ σ' : Type} (s : RegistrySettings) (ρ : Renumbering) (w : World σ)
    (w' : World σ') (c c' : Context) : Prop where
  context : c' = c.renumber ρ
  host : ∀ host, s.host = some host → ρ host.id = host.id
  isHeld : ∀ host, s.host = some host → w'.view.isHeld host.id = w.view.isHeld host.id

/-- **Bound contexts that are the same up to their numbers match.** -/
theorem Renumbers.view_matches {σ σ' : Type} {w : World σ} {w' : World σ'} {ρ : Renumbering}
    (hρ : Renumbers s ρ w w' c c') (h : Coherent s mine gs w) (h' : Coherent s mine' gs' w')
    (hc : w.bound.get? name = some c) (hc' : w'.bound.get? name = some c') :
    w.view.Matches ρ w'.view c.source := by
  obtain ⟨hactive, id, entries, order, rfl⟩ := h.bound name c hc
  obtain ⟨hactive', -⟩ := h'.bound name c' hc'
  refine ⟨h.isPlain_layers hc, fun own order' hl => ?_, fun l hl => ?_⟩
  · rcases List.mem_cons.1 hl with hl | hl
    · cases hl
      rw [hρ.context] at hactive'
      exact (decide_eq_true hactive').trans (decide_eq_true hactive).symm
    · obtain ⟨host, -, hl⟩ := mem_hostLayers hl
      cases hl
  · obtain ⟨host, hhost, rfl⟩ := mem_hostLayers hl
    exact (congrArg w'.view.isHeld (hρ.host host hhost)).trans (hρ.isHeld host hhost)

/-- **What is had through the one context is had through the other, renumbered**, and both have the
same plugins in their directories. -/
structure SameTenant (s : RegistrySettings) (ρ : Renumbering) (w w' : World Directory)
    (c c' : Context) : Prop extends Renumbers s ρ w w' c c' where
  state : (w'.life c'.id).state = (w.life c.id).state
  resolve : ∀ (active active' : Option String) (id : String),
    ((c'.resolve active' id).run w').1 = renumberedOne ρ ((c.resolve active id).run w).1
  enumerate : ∀ (active active' : Option String) (id : String),
    ((c'.enumerate active' id).run w').1 = renumberedAll ρ ((c.enumerate active id).run w).1
  findResource : ∀ (active active' : Option String) (path : String),
    ((c'.findResource active' path).run w').1 =
      renumberedOne ρ ((c.findResource active path).run w).1
  findResources : ∀ (active active' : Option String) (path : String),
    ((c'.findResources active' path).run w').1 =
      renumberedAll ρ ((c.findResources active path).run w).1
  resolveLinks : ∀ (active active' : Option String) (a : Artifact),
    ((c'.resolveLinks active' (a.renumber ρ)).run w').1 =
      renumberedAll ρ ((c.resolveLinks active a).run w).1
  plugins : (w'.plugins.registrations c'.id).map (fun r => (r.service, r.provider, r.name)) =
    (w.plugins.registrations c.id).map fun r => (r.service, r.provider, r.name)

variable {w w' : World Directory}

theorem Settled.sameTenant {ρ : Renumbering} (h : Settled s mine w) (h' : Settled s mine' w')
    (hc : w.bound.get? name = some c) (hc' : w'.bound.get? name = some c')
    (hρ : Renumbers s ρ w w' c c') : SameTenant s ρ w w' c c' := by
  have hm := hρ.view_matches h.coherent h'.coherent hc hc'
  obtain ⟨hactive, -⟩ := h.coherent.bound name c hc
  obtain ⟨hactive', -⟩ := h'.coherent.bound name c' hc'
  have hplugins := h'.enlisted name c' hc'
  obtain rfl := hρ.context
  rw [Bridge.wanted_renumber hm s.bridge none none] at hplugins
  exact {
    toRenumbers := hρ
    state := hactive'.trans hactive.symm
    resolve := fun active active' id => hm.lookup_eq active active' _
    enumerate := fun active active' id => hm.lookupAll_eq active active' _
    findResource := fun active active' path => hm.lookup_eq active active' _
    findResources := fun active active' path => hm.lookupAll_eq active active' _
    resolveLinks := hm.resolveLinks_eq
    plugins := by
      rw [hplugins, h.enlisted name c hc, List.map_map, List.map_map]
      rfl }

/-! ## Two runs -/

/-- How a registry begins: it has nothing, nor has the directory anything of an identity that is not
taken, and its host is there before it. -/
structure Begins (s : RegistrySettings) (w : World Directory) : Prop where
  fresh : w.Fresh
  unowned : ∀ id, w.nextId ≤ id.number → w.plugins.ownedBy id = []
  host : ∀ host, s.host = some host → host.id.number < w.nextId

theorem Begins.coherent (hw : Begins s w) (cs : List Call) :
    Coherent s (fun id => w.nextId ≤ id.number) [.idle] ((callAll s cs).run w).2 :=
  ((coherent_fresh s hw.fresh 1).restored (restores_callAll cs)).2

/-- What is bound after some calls is not the host: it was not there before. -/
theorem Begins.host_ne (hw : Begins s w) {cs : List Call}
    (hc : ((callAll s cs).run w).2.bound.get? name = some c) {host : Holding}
    (hhost : s.host = some host) : host.id ≠ c.id := by
  intro hid
  have hnew : w.nextId ≤ c.id.number := ((hw.coherent cs).known c.id (mem_charges_of_bound _ hc)).1
  have hold := hw.host host hhost
  rw [hid] at hold
  exact Nat.not_lt.2 hnew hold

/-- **The calls on a name are answered the same in both runs**, and leave it the same content. -/
theorem Begins.calls_eq (hw : Begins s w) (hw' : Begins s w') {cs cs' : List Call}
    (hcs : callsOn name cs = callsOn name cs') :
    answersOn name cs ((callAll s cs).run w).1 = answersOn name cs' ((callAll s cs').run w').1 ∧
      ((callAll s cs).run w).2.contents.get? name =
        ((callAll s cs').run w').2.contents.get? name := by
  obtain ⟨hmeaning, -⟩ := (coherent_fresh s hw.fresh 1).calls cs
  obtain ⟨hmeaning', -⟩ := (coherent_fresh s hw'.fresh 1).calls cs'
  have hempty : w.contents.get? name = w'.contents.get? name := by
    rw [World.contents, World.contents, hw.fresh.bound, hw'.fresh.bound]
  obtain ⟨hanswers, hget⟩ := meaningAll_callsOn (s := s) cs hempty
  obtain ⟨hanswers', hget'⟩ := meaningAll_callsOn (s := s) cs' (rfl : w'.contents.get? name = _)
  rw [← hmeaning, hcs] at hanswers hget
  rw [← hmeaning'] at hanswers' hget'
  exact ⟨hanswers.trans hanswers'.symm, hget.trans hget'.symm⟩

/-- The identities of two contexts change places, and nothing else does. -/
theorem renumbers_swap (hw : Begins s w) (hw' : Begins s w')
    (hheld : ∀ host, s.host = some host → w'.view.isHeld host.id = w.view.isHeld host.id)
    {cs cs' : List Call} (hc : ((callAll s cs).run w).2.bound.get? name = some c)
    (hc' : ((callAll s cs').run w').2.bound.get? name = some c')
    (hsame : (c.own.entries, c.order) = (c'.own.entries, c'.order)) :
    Renumbers s (Equiv.swap c.id c'.id) ((callAll s cs).run w).2 ((callAll s cs').run w').2 c
      c' := by
  obtain ⟨hentries, horder⟩ := Prod.mk.inj hsame
  have hhost : ∀ host, s.host = some host → Equiv.swap c.id c'.id host.id = host.id :=
    fun host hs => Equiv.swap_apply_of_ne_of_ne (hw.host_ne hc hs) (hw'.host_ne hc' hs)
  refine ⟨?_, hhost, fun host hs => ?_⟩
  · rw [(hw.coherent cs).eq_contextOf hc, (hw'.coherent cs').eq_contextOf hc', ← hentries, ← horder]
    exact ((contextOf_renumber hhost c.id c.own.entries c.order).trans
      (congrArg (contextOf s · name c.own.entries c.order) (Equiv.swap_apply_left _ _))).symm
  · rw [World.view, World.view, Program.gone_run, Program.gone_run]
    exact hheld host hs

/-- **What is had through a context of a name was defined by it or by the host**, and by no context
that another name was ever bound to. -/
theorem Begins.defined (hw : Begins s w) {cs : List Call}
    (hc : ((callAll s cs).run w).2.bound.get? name = some c) {a : Artifact}
    (ha : c.Obtains ((callAll s cs).run w).2 a) :
    (a.origin = c.own.origin ∨ ∃ host, s.host = some host ∧ a.origin = host.origin) ∧
      ∀ earlier, earlier <+: cs → ∀ other c₂, other ≠ name →
        ((callAll s earlier).run w).2.bound.get? other = some c₂ → a.origin.context ≠ c₂.id := by
  have hr := hw.coherent cs
  obtain ⟨-, hfate⟩ := (coherent_fresh s hw.fresh 1).calls cs
  obtain ⟨own, hown, horigin⟩ := ha.origin_eq (hr.isPlain_layers hc)
  rw [horigin]
  rcases hr.holds_of_bound hc hown with rfl | hhost
  · refine ⟨.inl rfl, fun earlier he other c₂ hne hc₂ hid => ?_⟩
    rcases hfate earlier he other c₂ hc₂ with hbound | hdisposed
    · exact hne (hr.name_eq_of_id hbound hc hid.symm)
    · rw [← show c.id = c₂.id from hid, (hr.bound name c hc).1] at hdisposed
      cases hdisposed
  · exact ⟨.inr ⟨own, hhost, rfl⟩, fun earlier _ other c₂ _ hc₂ => hw.host_ne hc₂ hhost⟩

/-- **Tenants are isolated.**  In two runs with the same calls on a name, whatever the other calls
are, the calls run to their ends and those on the name are answered the same.  After them the name
is bound in both or in neither; where it is, the two contexts are the same up to a renumbering that
leaves the host alone, and so is what is had through them, the plugins that they have in the
directory being the same in the order of their handles.  What is had through the context of the name
was defined by it or by the host, and by no context that another name was ever bound to. -/
theorem tenants_isolated (s : RegistrySettings) (hw : Begins s w) (hw' : Begins s w')
    (hheld : ∀ host, s.host = some host → w'.view.isHeld host.id = w.view.isHeld host.id)
    (name : String) {cs cs' : List Call} (hcs : callsOn name cs = callsOn name cs') :
    let r := (callAll s cs).run w
    let r' := (callAll s cs').run w'
    (callAll s cs).advance w = (.done r.1, r.2) ∧
    (callAll s cs').advance w' = (.done r'.1, r'.2) ∧
    answersOn name cs r.1 = answersOn name cs' r'.1 ∧
    Option.Rel (fun c c' => ∃ ρ, SameTenant s ρ r.2 r'.2 c c') (r.2.bound.get? name)
      (r'.2.bound.get? name) ∧
    ∀ c, r.2.bound.get? name = some c → ∀ a, c.Obtains r.2 a →
      (a.origin = c.own.origin ∨ ∃ host, s.host = some host ∧ a.origin = host.origin) ∧
      ∀ earlier, earlier <+: cs → ∀ other c₂, other ≠ name →
        ((callAll s earlier).run w).2.bound.get? other = some c₂ → a.origin.context ≠ c₂.id := by
  intro r r'
  obtain ⟨hadvance, -⟩ := (coherent_fresh s hw.fresh 1).restored (restores_callAll cs)
  obtain ⟨hadvance', -⟩ := (coherent_fresh s hw'.fresh 1).restored (restores_callAll cs')
  obtain ⟨mine, hs, -⟩ := (Settled.of_fresh s hw.fresh hw.unowned).calls cs
  obtain ⟨mine', hs', -⟩ := (Settled.of_fresh s hw'.fresh hw'.unowned).calls cs'
  obtain ⟨hanswers, hcontents⟩ := hw.calls_eq hw' hcs
  rw [World.contents, World.contents, Table.get?_map, Table.get?_map] at hcontents
  refine ⟨hadvance, hadvance', hanswers, rel_of_map_eq hcontents fun c c' hc hc' hsame => ?_,
    fun c hc a ha => hw.defined hc ha⟩
  exact ⟨_, hs.sameTenant hs' hc hc' (renumbers_swap hw hw' hheld hc hc' hsame)⟩

/-- In the second run another tenant comes and goes, and more identities are taken. -/
theorem tenants_isolated_apart :
    let manifest : ArtifactKey := .data "META-INF/services/sql.Driver"
    let entry : Entry := .compress manifest (utf8 "app.Driver")
    let s : RegistrySettings :=
      { host := some ⟨⟨1⟩, "host", Table.insert ∅ manifest entry, .raw⟩ }
    let w : World Directory := { World.initial ∅ with nextId := 2 }
    let w' : World Directory := { World.initial ∅ with nextId := 5 }
    let orders (byte : UInt8) : Call :=
      .addWithOrder "orders" [⟨"app.Driver", .code, [byte]⟩] .childFirst
    let billing : Call := .addWithOrder "billing" [⟨"app.Driver", .code, [9]⟩] .parentFirst
    let calls := [orders 7, orders 8]
    let calls' := [billing, orders 7, .remove "billing", orders 8]
    ∃ c c' ρ, ((callAll s calls).run w).2.bound.get? "orders" = some c ∧
      ((callAll s calls').run w').2.bound.get? "orders" = some c' ∧ c.id = ⟨3⟩ ∧ c'.id = ⟨7⟩ ∧
      SameTenant s ρ ((callAll s calls).run w).2 ((callAll s calls').run w').2 c c' := by
  intro manifest entry s w w' orders billing calls calls'
  have hw : Begins s w :=
    ⟨⟨rfl, rfl, fun _ _ => rfl⟩, fun _ _ => rfl, fun host hhost => by cases hhost; decide⟩
  have hw' : Begins s w' :=
    ⟨⟨rfl, rfl, fun _ _ => rfl⟩, fun _ _ => rfl, fun host hhost => by cases hhost; decide⟩
  have hcs : callsOn "orders" calls = callsOn "orders" calls' := by
    simp [callsOn, Call.name, calls, calls', orders, billing]
  have hid : (((callAll s calls).run w).2.bound.get? "orders").map Context.id = some ⟨3⟩ := by
    decide +kernel
  have hid' : (((callAll s calls').run w').2.bound.get? "orders").map Context.id = some ⟨7⟩ := by
    decide +kernel
  obtain ⟨-, -, -, hrel, -⟩ := tenants_isolated s hw hw' (fun _ _ => rfl) "orders" hcs
  obtain ⟨c, hc, hcid⟩ := Option.map_eq_some_iff.1 hid
  obtain ⟨c', hc', hcid'⟩ := Option.map_eq_some_iff.1 hid'
  generalize ((callAll s calls).run w).2 = r at hrel hc ⊢
  generalize ((callAll s calls').run w').2 = r' at hrel hc' ⊢
  rw [hc, hc'] at hrel
  cases hrel with
  | some hsame =>
    obtain ⟨ρ, hsame⟩ := hsame
    exact ⟨c, c', ρ, hc, hc', hcid, hcid', hsame⟩

end Registry

end Tenancy
