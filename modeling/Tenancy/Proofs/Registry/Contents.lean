import Tenancy.Plugin.Directory
import Tenancy.Proofs.Context.Lifecycle
import Tenancy.Proofs.Registry.Calls
import Tenancy.Service

/-!
# Proofs/Registry/Contents — a registry is a finite map

Whoever calls a registry alone sees a finite map from names to contents, entries with an order:

    answer, contents after  =  meaning of the call, applied to contents before

(`Registry.calls_refine_map`).  Behind the map every name is bound to a context in use, and every
context that was bound before is disposed of.  A call that does not answer that it changed
something leaves the world as it was, reports apart.
-/

namespace Tenancy

/-- What is held under the names. -/
abbrev Contents := Table String (ArtifactMap × ResolutionOrder)

def World.contents {σ : Type} (w : World σ) : Contents :=
  w.bound.map fun c => (c.own.entries, c.order)

namespace Registry

/-! ## The meaning of calls -/

/-- The entries that definitions give, if the name and all of the definitions are usable. -/
def prepared (s : RegistrySettings) (name : String)
    (ds : Except NamespaceError (List Definition)) : Except NamespaceError ArtifactMap :=
  match checkName name, ds with
  | .error e, _ => .error e
  | .ok (), .error e => .error e
  | .ok (), .ok ds => extractAll s.extractor ds

theorem prepared_eq_ok_iff {s : RegistrySettings} {name : String}
    {ds : Except NamespaceError (List Definition)} {entries : ArtifactMap} :
    prepared s name ds = .ok entries ↔
      checkName name = .ok () ∧ ∃ ds', ds = .ok ds' ∧ extractAll s.extractor ds' = .ok entries := by
  unfold prepared
  cases checkName name with
  | error e => simp
  | ok _ => cases ds <;> simp

def put (name : String) (order : ResolutionOrder) (m : Contents) :
    Except NamespaceError ArtifactMap → Except NamespaceError Bool × Contents
  | .error e => (.error e, m)
  | .ok entries => (.ok true, m.insert name (entries, order))

/-- The name holds the same order and content with the same fingerprint. -/
def isHeld (name : String) (entries : ArtifactMap) (order : ResolutionOrder) (m : Contents) :
    Bool :=
  (m.get? name).any fun held =>
    held.2 = order && fingerprint held.1 held.2 = fingerprint entries order

theorem isHeld_contents {σ : Type} (name : String) (entries : ArtifactMap)
    (order : ResolutionOrder) (w : World σ) :
    isHeld name entries order w.contents =
      (w.bound.get? name).any (isUnchanged · entries order) := by
  rw [isHeld, World.contents, Table.get?_map, Option.any_map]
  rfl

/-- **What a call answers, and what it makes of the contents.** -/
def Call.meaning (s : RegistrySettings) : Call → Contents → Except NamespaceError Bool × Contents
  | .add name ds, m => put name s.defaultOrder m (prepared s name (.ok ds))
  | .addWithOrder name ds order, m => put name order m (prepared s name (.ok ds))
  | .apply t c, m =>
    let order := c.order.getD s.defaultOrder
    let entries := prepared s c.name (c.toDefinitions t)
    if entries.toOption.any (isHeld c.name · order m) then (.ok false, m)
    else put c.name order m entries
  | .remove name, m => (.ok (m.contains name), m.erase name)

def meaningAll (s : RegistrySettings) :
    List Call → Contents → List (Except NamespaceError Bool) × Contents
  | [], m => ([], m)
  | c :: cs, m =>
    ((c.meaning s m).1 :: (meaningAll s cs (c.meaning s m).2).1,
      (meaningAll s cs (c.meaning s m).2).2)

/-! ## What a call does to the names -/

variable {σ : Type} [Plugin.Backend σ] {s : RegistrySettings} {mine : ContextId → Prop}
  {w : World σ}

/-- The effect of a call with an answer: after some reports it installs a namespace, or removes one
that is there, and answers so; or it does nothing but report. -/
inductive Effect (s : RegistrySettings) (w w' : World σ) : Except NamespaceError Bool → Prop
  | nothing {x} (hx : x ≠ .ok true) (hw : w' = { w with events := w'.events }) : Effect s w w' x
  | installs (es : List Event) (name : String) (entries : ArtifactMap) (order : ResolutionOrder)
      (hw : w' = ((Registry.install s name entries order).run { w with events := es }).2) :
      Effect s w w' (.ok true)
  | removes (name : String) (hname : w.bound.contains name = true)
      (hw : w' = ((Registry.remove name).run w).2) : Effect s w w' (.ok true)

theorem Effect.error (w : World σ) (es : List Event) (e : NamespaceError) :
    Effect s w { w with events := es } (.error e) :=
  .nothing nofun rfl

/-- What a call displaces it disposes of. -/
theorem Coherent.displaced (h : Coherent s mine [.idle] w) {w' : World σ}
    (h' : Coherent s mine [.idle] w') {x : Except NamespaceError Bool} (he : Effect s w w' x)
    {name : String} {c : Context} (hc : w.bound.get? name = some c) :
    w'.bound.get? name = some c ∨ (w'.life c.id).state = .disposed := by
  obtain ⟨hmine, hborn⟩ := h.known c.id (mem_charges_of_bound _ hc)
  -- identities are bound once, so that of `c` goes with its name
  have hother : c.id ∉ (w.bound.erase name).values.map Context.id := by
    have hvalues := (w.bound.values_erase name).map Context.id
    rw [hc] at hvalues
    have hsole : (w.bound.values.map Context.id).Nodup := h.sole
    exact (List.nodup_cons.1 (hvalues.nodup hsole)).1
  have hdisposed : w.nextId ≤ w'.nextId → c.id ∉ w'.bound.values.map Context.id →
      (w'.life c.id).state = .disposed := fun hnext hid =>
    (h'.retired c.id hmine (Nat.lt_of_lt_of_le hborn hnext) hid).1
  cases he with
  | nothing hx hw => rw [hw]; exact .inl hc
  | installs es name' entries order hw =>
    obtain ⟨hnext, hbound⟩ := run_install s name' entries order { w with events := es }
    rw [← hw] at hnext hbound
    by_cases hname : name = name'
    · subst hname
      refine .inr (hdisposed (hnext ▸ Nat.le_succ _) fun hmem => ?_)
      have hvalues := (w.bound.values_insert name (contextOf s ⟨w.nextId⟩ name entries order)).map
        Context.id
      rw [hbound, hvalues.mem_iff, List.map_cons, List.mem_cons] at hmem
      rcases hmem with hnew | hmem
      · rw [hnew] at hborn
        exact Nat.lt_irrefl _ hborn
      · exact hother hmem
    · rw [hbound, Table.get?_insert_ne _ _ hname]
      exact .inl hc
  | removes name' _ hw =>
    obtain ⟨-, hnext, hbound, -⟩ := run_remove name' w
    rw [← hw] at hnext hbound
    by_cases hname : name = name'
    · subst hname
      refine .inr (hdisposed (Nat.le_of_eq hnext.symm) fun hmem => ?_)
      rw [hbound] at hmem
      exact hother hmem
    · rw [hbound, Table.get?_erase_ne _ hname]
      exact .inl hc

theorem advance_reportAll (es : List Event) (w : World σ) :
    ∃ ev, (reportAll es).advance w = (.done (), { w with events := ev }) := by
  induction es generalizing w with
  | nil => exact ⟨w.events, rfl⟩
  | cons e es ih => exact ih { w with events := e :: w.events }

theorem advance_extractReporting (ds : List Definition) (w : World σ) :
    ∃ ev, (extractReporting s ds).advance w =
      (.done (extractAll s.extractor ds), { w with events := ev }) := by
  obtain ⟨ev, hev⟩ := advance_reportAll (extractAllReports s.extractor ds) w
  exact ⟨ev, Program.advance_bind hev _⟩

theorem run_extractReporting (ds : List Definition) (w : World σ) :
    ∃ ev, (extractReporting s ds).run w =
      (extractAll s.extractor ds, { w with events := ev }) := by
  obtain ⟨ev, hev⟩ := advance_extractReporting (s := s) ds w
  exact ⟨ev, Program.run_of_advance hev⟩

/-- Installing, after some reports, puts the content under the name. -/
theorem install_contents (es : List Event) (name : String) (entries : ArtifactMap)
    (order : ResolutionOrder) :
    let w' := ((install s name entries order).run { w with events := es }).2
    w'.contents = w.contents.insert name (entries, order) ∧ Effect s w w' (.ok true) := by
  obtain ⟨-, hbound⟩ := run_install s name entries order { w with events := es }
  refine ⟨?_, .installs es name entries order rfl⟩
  rw [World.contents, hbound, Table.map_insert]
  rfl

theorem call_addWithOrder (name : String) (ds : List Definition) (order : ResolutionOrder) :
    let r := ((Call.addWithOrder name ds order).program s).run w
    (r.1, r.2.contents) = put name order w.contents (prepared s name (.ok ds)) ∧
      Effect s w r.2 r.1 := by
  obtain ⟨ev, hev⟩ := run_extractReporting (s := s) ds w
  rw [Call.program, Registry.addWithOrder]
  unfold prepared
  cases checkName name with
  | error e => exact ⟨rfl, .error w w.events e⟩
  | ok _ =>
    simp only [Program.run_bind, hev]
    cases extractAll s.extractor ds with
    | error e => exact ⟨rfl, .error w ev e⟩
    | ok entries =>
      obtain ⟨hcontents, heffect⟩ := install_contents (s := s) (w := w) ev name entries order
      simp only [Program.run_bind]
      exact ⟨Prod.ext rfl hcontents, heffect⟩

theorem run_reconcile (es : List Event) (name : String) (entries : ArtifactMap)
    (order : ResolutionOrder) :
    let r := (reconcile s name entries order).run { w with events := es }
    (.ok r.1, r.2.contents) =
        (if isHeld name entries order w.contents then (.ok false, w.contents)
          else put name order w.contents (.ok entries)) ∧
      Effect s w r.2 (.ok r.1) := by
  have hrun : (reconcile s name entries order).run { w with events := es } =
      (if (w.bound.get? name).any (isUnchanged · entries order) = true then do
          Program.perform (.report ⟨.debug, origin, "Namespace unchanged, skipping",
            [("namespace", .text name)]⟩)
          return false
        else do
          install s name entries order
          return true : Program Bool).run { w with events := es } := rfl
  rw [hrun, isHeld_contents]
  split
  · exact ⟨rfl, .nothing nofun rfl⟩
  · obtain ⟨hcontents, heffect⟩ := install_contents (s := s) (w := w) es name entries order
    rw [Program.run_bind]
    exact ⟨Prod.ext rfl hcontents, heffect⟩

theorem call_apply (t : Files.Tree) (c : NamespaceConfig) :
    let r := ((Call.apply t c).program s).run w
    (r.1, r.2.contents) = (Call.apply t c).meaning s w.contents ∧ Effect s w r.2 r.1 := by
  rw [Call.program, Registry.apply, Call.meaning]
  unfold prepared
  cases checkName c.name with
  | error e => exact ⟨rfl, .error w w.events e⟩
  | ok _ =>
    cases c.toDefinitions t with
    | error e => exact ⟨rfl, .error w w.events e⟩
    | ok ds =>
      obtain ⟨ev, hev⟩ := run_extractReporting (s := s) ds w
      simp only [Program.run_bind, hev]
      cases extractAll s.extractor ds with
      | error e => exact ⟨rfl, .error w ev e⟩
      | ok entries =>
        rw [Program.run_bind]
        exact run_reconcile ev c.name entries (c.order.getD s.defaultOrder)

theorem call_remove (name : String) :
    let r := ((Call.remove name).program s).run w
    (r.1, r.2.contents) = (Call.remove name).meaning s w.contents ∧ Effect s w r.2 r.1 := by
  obtain ⟨hanswer, -, hbound, hsame⟩ := run_remove name w
  rw [Call.program, Program.run_bind, Call.meaning, hanswer]
  refine ⟨Prod.ext (congrArg Except.ok (Table.contains_map _ _ _).symm) ?_, ?_⟩
  · show ((remove name).run w).2.contents = w.contents.erase name
    rw [World.contents, hbound, Table.map_erase]
    rfl
  · show Effect s w ((remove name).run w).2 (.ok (w.bound.contains name))
    cases hname : w.bound.contains name with
    | false => exact .nothing nofun (by rw [hsame hname])
    | true => exact .removes name hname rfl

/-- **A call answers and acts as its meaning says**, in any world, and touches one name at most. -/
theorem call_means (s : RegistrySettings) (c : Call) (w : World σ) :
    let r := (c.program s).run w
    (r.1, r.2.contents) = c.meaning s w.contents ∧ Effect s w r.2 r.1 := by
  cases c with
  | add name ds => exact call_addWithOrder name ds s.defaultOrder
  | addWithOrder name ds order => exact call_addWithOrder name ds order
  | apply t c => exact call_apply t c
  | remove name => exact call_remove name

namespace Coherent

/-- Calls in turn: answers, contents and the fate of every context that was bound on the way. -/
theorem calls (h : Coherent s mine [.idle] w) (cs : List Call) :
    let r := (callAll s cs).run w
    (r.1, r.2.contents) = meaningAll s cs w.contents ∧
      ∀ earlier, earlier <+: cs → ∀ name c,
        ((callAll s earlier).run w).2.bound.get? name = some c →
          r.2.bound.get? name = some c ∨ (r.2.life c.id).state = .disposed := by
  induction cs generalizing w with
  | nil =>
    refine ⟨rfl, fun earlier he name c hc => ?_⟩
    obtain rfl := List.prefix_nil.1 he
    exact .inl hc
  | cons c cs ih =>
    obtain ⟨hmeaning, heffect⟩ := call_means s c w
    obtain ⟨-, h₁⟩ := h.restored (restores_program c)
    obtain ⟨hanswers, hfate⟩ := ih h₁
    have hrun : ∀ cs' : List Call, (callAll s (c :: cs')).run w =
        (((c.program s).run w).1 :: ((callAll s cs').run ((c.program s).run w).2).1,
          ((callAll s cs').run ((c.program s).run w).2).2) := fun cs' => by
      rw [callAll, Program.run_bind, Program.run_bind]
      rfl
    rw [hrun]
    refine ⟨?_, fun earlier he name c' hc' => ?_⟩
    · rw [meaningAll, ← hmeaning, ← hanswers]
    · cases earlier with
      | nil =>
        rcases h.displaced h₁ heffect hc' with hbound | hdisposed
        · exact hfate [] List.nil_prefix name c' hbound
        · exact .inr (Program.disposed_run _ hdisposed)
      | cons c₁ earlier =>
        obtain ⟨rfl, he'⟩ := List.cons_prefix_cons.1 he
        rw [hrun] at hc'
        exact hfate earlier he' name c' hc'

end Coherent

/-! ## What the queries tell -/

/-- The queries of a registry tell the contents, and that everything bound is in use. -/
structure Shows (s : RegistrySettings) (w : World σ) (m : Contents) : Prop where
  has : ∀ name, (Service.registry s).has w name = m.contains name
  context : ∀ name, ((Service.registry s).contextFor w name).map
    (fun c => (c.own.entries, c.order)) = m.get? name
  inUse : ∀ name c, (Service.registry s).contextFor w name = some c →
    (w.life c.id).state = .active ∧ c.name = name
  count : (Program.perform .boundCount).run w = (m.size, w)
  isEmpty : w.bound.pairs.isEmpty = m.pairs.isEmpty
  listing : w.bound.pairs.map (fun b => (b.1, b.2.own.entries, b.2.order)) = m.pairs
  sorted : w.bound.keys.Pairwise (· < ·)
  default : (Service.registry s).isDefaultDefined w = m.contains defaultName

theorem Coherent.shows {gs : List Duty} (h : Coherent s mine gs w) : Shows s w w.contents where
  has name := (Table.contains_map _ _ _).symm
  context name := (Table.get?_map _ _ _).symm
  inUse name c hc := by
    obtain ⟨hactive, id, entries, order, rfl⟩ := h.bound name c hc
    exact ⟨hactive, rfl⟩
  count := Prod.ext (Table.size_map _ _).symm rfl
  isEmpty := List.isEmpty_map.symm
  listing := rfl
  sorted := w.bound.keys_sorted
  default := h.default.trans (Table.contains_map _ _ _).symm

/-- **A registry is a finite map.**  Calls in turn, none of which waits, answer and change the
contents as their meanings say; the queries show the contents.  Every context that was bound on the
way is still bound to its name or disposed of, and the next call changes nothing at all, reports
apart, unless it answers that it did. -/
theorem calls_refine_map (s : RegistrySettings) (hw : w.Fresh) (cs : List Call) :
    let r := (callAll s cs).run w
    (callAll s cs).advance w = (.done r.1, r.2) ∧
    (r.1, r.2.contents) = meaningAll s cs ∅ ∧
    Shows s r.2 r.2.contents ∧
    (∀ earlier, earlier <+: cs → ∀ name c,
      ((callAll s earlier).run w).2.bound.get? name = some c →
        r.2.bound.get? name = some c ∨ (r.2.life c.id).state = .disposed) ∧
    ∀ c : Call,
      let r' := (c.program s).run r.2
      r'.1 ≠ .ok true → r'.2 = { r.2 with events := r'.2.events } := by
  intro r
  have h := coherent_fresh s hw 1
  obtain ⟨hadvance, hr⟩ := h.restored (restores_callAll cs)
  obtain ⟨hmeaning, hfate⟩ := h.calls cs
  have hempty : w.contents = ∅ := by rw [World.contents, hw.bound]; rfl
  rw [hempty] at hmeaning
  refine ⟨hadvance, hmeaning, hr.shows, hfate, ?_⟩
  intro c r' hc
  obtain ⟨-, heffect⟩ := call_means s c r.2
  generalize hx : r'.1 = x at hc
  rw [hx] at heffect
  cases heffect with
  | nothing _ hsame => exact hsame
  | installs => exact absurd rfl hc
  | removes => exact absurd rfl hc

/-- A namespace is added, a blank one is refused, and the first is removed, once. -/
theorem calls_refine_map_removed :
    let calls : List Call := [.addWithOrder "orders" [⟨"app.Order", .code, [7]⟩] .childFirst,
      .add " " [], .remove "orders", .remove "orders"]
    ((callAll {} calls).run (World.initial (∅ : Plugin.Directory))).1 =
      [.ok true, .error (.invalidArgument .blankName), .ok true, .ok false] := by
  intro calls
  have hmeaning := (calls_refine_map {} (World.fresh_initial (∅ : Plugin.Directory)) calls).2.1
  exact congrArg Prod.fst hmeaning

end Registry

end Tenancy
