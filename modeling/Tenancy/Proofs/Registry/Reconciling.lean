import Tenancy.Proofs.Artifact.Fingerprint
import Tenancy.Proofs.Bundle.Inventory
import Tenancy.Proofs.Registry.Contents

/-!
# Proofs/Registry/Reconciling — a configuration is applied once

Applying a configuration compares digests, not contents.  What it means is nevertheless said in
terms of contents:

    applied to what conforms  =  nothing,        applied to anything else  =  added

(`Registry.apply_reconciles`), in every world that a registry comes to (`Registry.Reached`), as long
as the digests tell apart what they are compared for.  Whatever is bound there was extracted by the
same registry (`Registry.Reached.extracted`), so that what its digest was taken of can be read back.
-/

namespace Tenancy

namespace Registry

variable {σ : Type} {s : RegistrySettings} {t : Files.Tree} {c : NamespaceConfig}

/-! ## What a configuration asks for -/

/-- The entries that the resources of a configuration give, and its order or the default one. -/
def Asks (s : RegistrySettings) (t : Files.Tree) (c : NamespaceConfig) (entries : ArtifactMap)
    (order : ResolutionOrder) : Prop :=
  order = c.order.getD s.defaultOrder ∧
    ∃ ds, c.toDefinitions t = .ok ds ∧ extractAll s.extractor ds = .ok entries

/-- **The name is bound to a context that has what the configuration asks for.** -/
def Conforms (s : RegistrySettings) (t : Files.Tree) (c : NamespaceConfig) (w : World σ) : Prop :=
  ∃ held, w.bound.get? c.name = some held ∧ Asks s t c held.own.entries held.order

theorem Asks.extracted {entries : ArtifactMap} {order : ResolutionOrder} {ds : List Definition}
    (hds : c.toDefinitions t = .ok ds) (h : Asks s t c entries order) :
    extractAll s.extractor ds = .ok entries := by
  obtain ⟨-, ds', hds', hentries⟩ := h
  obtain rfl : ds = ds' := Except.ok.inj (hds.symm.trans hds')
  exact hentries

theorem Asks.unique {entries entries' : ArtifactMap} {order order' : ResolutionOrder}
    (h : Asks s t c entries order) (h' : Asks s t c entries' order') :
    entries = entries' ∧ order = order' := by
  obtain ⟨rfl, ds, hds, hentries⟩ := h
  exact ⟨Except.ok.inj (hentries.symm.trans (h'.extracted hds)), h'.1.symm⟩

/-! ## What is bound -/

variable [Plugin.Backend σ]

/-- **The worlds that a registry comes to.**  Any number of threads call it, and whatever else
happens leaves its bindings alone. -/
inductive Reached (s : RegistrySettings) :
    List (Program (List (Except NamespaceError Bool))) → World σ → Prop
  | start (threads : List (List Call)) {w : World σ} (hw : w.bound = ∅) :
      Reached s (threads.map (callAll s)) w
  | step {ps : List (Program (List (Except NamespaceError Bool)))} {w : World σ}
      {t : List (Program (List (Except NamespaceError Bool))) × World σ} (h : Reached s ps w)
      (hs : Program.Step (ps, w) t) : Reached s t.1 t.2
  | beside {ps : List (Program (List (Except NamespaceError Bool)))} {w w' : World σ}
      (h : Reached s ps w) (hw : w'.bound = w.bound) : Reached s ps w'

/-- The name is a good one, and the entries are those of some definitions. -/
def Extracted (s : RegistrySettings) (name : String) (c : Context) : Prop :=
  checkName name = .ok () ∧ ∃ ds, extractAll s.extractor ds = .ok c.own.entries

/-- Nothing is bound but what was extracted. -/
def Binds (s : RegistrySettings) : Action → Prop
  | .bind name c => Extracted s name c
  | _ => True

theorem binds_of_quiet {a : Action} (ha : a.IsQuiet) : Binds s a := by
  cases a with
  | bind name c => exact ha.elim
  | _ => trivial

theorem only_install {name : String} {entries : ArtifactMap} (hname : checkName name = .ok ())
    {ds : List Definition} (hds : extractAll s.extractor ds = .ok entries)
    (order : ResolutionOrder) : (install s name entries order).Only (Binds s) := by
  obtain ⟨e, he⟩ := install_eq s name entries order
  rw [he]
  exact ⟨trivial, fun id => ⟨⟨hname, ds, hds⟩, fun previous => ⟨trivial, fun _ =>
    (only_settle previous _).imp fun _ => binds_of_quiet⟩⟩⟩

/-- What follows an extraction has its result to go on with. -/
theorem only_extractReporting_bind {α : Type} {ds : List Definition}
    {f : Except NamespaceError ArtifactMap → Program α}
    (hf : (f (extractAll s.extractor ds)).Only (Binds s)) :
    (extractReporting s ds >>= f).Only (Binds s) := by
  rw [extractReporting, bind_assoc]
  exact (only_reportAll (fun _ => trivial) _).bind fun _ => hf

theorem only_addWithOrder (name : String) (ds : List Definition) (order : ResolutionOrder) :
    (addWithOrder s name ds order).Only (Binds s) := by
  rw [addWithOrder]
  split
  · trivial
  · rename_i hname
    refine only_extractReporting_bind ?_
    cases hds : extractAll s.extractor ds with
    | error e => trivial
    | ok entries => exact (only_install hname hds order).bind fun _ => trivial

theorem only_apply (t : Files.Tree) (c : NamespaceConfig) : (apply s t c).Only (Binds s) := by
  rw [apply]
  split
  · trivial
  · rename_i hname
    split
    · trivial
    · rename_i ds _
      refine only_extractReporting_bind ?_
      cases hds : extractAll s.extractor ds with
      | error e => trivial
      | ok entries =>
        refine Program.Only.bind ⟨trivial, fun bound => ?_⟩ fun _ => trivial
        show Program.Only _ (ite _ _ _)
        split
        · exact ⟨trivial, fun _ => trivial⟩
        · exact (only_install hname hds _).bind fun _ => trivial

theorem only_remove (name : String) : (remove name).Only (Binds s) := by
  obtain ⟨e, he⟩ := remove_eq name
  rw [he]
  refine ⟨trivial, fun removed => ?_⟩
  cases removed with
  | none => trivial
  | some c =>
    have hretire : (retire c).Only (Binds s) := (only_retire c).imp fun _ => binds_of_quiet
    exact ⟨trivial, fun _ => hretire.bind fun _ => trivial⟩

theorem only_program (c : Call) : (c.program s).Only (Binds s) := by
  cases c with
  | add name ds => exact (only_addWithOrder name ds s.defaultOrder).bind fun _ => trivial
  | addWithOrder name ds order => exact (only_addWithOrder name ds order).bind fun _ => trivial
  | apply t c => exact only_apply t c
  | remove name => exact (only_remove name).bind fun _ => trivial

theorem only_callAll (cs : List Call) : (callAll s cs).Only (Binds s) := by
  induction cs with
  | nil => trivial
  | cons c cs ih => exact (only_program c).bind fun _ => ih.bind fun _ => trivial

/-- Everything that is bound was extracted. -/
def AllExtracted (s : RegistrySettings) (w : World σ) : Prop :=
  ∀ name c, w.bound.get? name = some c → Extracted s name c

theorem AllExtracted.perform {w : World σ} {a : Action} (ha : Binds s a) (h : AllExtracted s w) :
    AllExtracted s (w.perform a).2 := by
  cases a with
  | bind name c =>
    intro name' c' hc'
    have hbound : (w.bound.insert name c).get? name' = some c' := hc'
    rw [Table.get?_insert] at hbound
    split at hbound
    · rename_i hname
      cases hbound
      exact hname ▸ ha
    · exact h name' c' hbound
  | unbind name =>
    intro name' c' hc'
    have hbound : (w.bound.erase name).get? name' = some c' := hc'
    rw [Table.get?_erase] at hbound
    split at hbound
    · cases hbound
    · exact h name' c' hbound
  | _ => exact h

theorem Reached.extracted {ps : List (Program (List (Except NamespaceError Bool)))} {w : World σ}
    (h : Reached s ps w) : AllExtracted s w ∧ ∀ p ∈ ps, p.Only (Binds s) := by
  induction h with
  | start threads hw =>
    refine ⟨fun name c hc => ?_, fun p hp => ?_⟩
    · rw [hw] at hc
      cases hc
    · obtain ⟨cs, -, rfl⟩ := List.mem_map.1 hp
      exact only_callAll cs
  | step _ hs ih =>
    obtain ⟨⟨a, ha, hw⟩, hps⟩ := Program.Only.step ih.2 hs
    exact ⟨hw ▸ ih.1.perform ha, hps⟩
  | beside _ hw ih =>
    refine ⟨fun name c hc => ?_, ih.2⟩
    rw [hw] at hc
    exact ih.1 name c hc

theorem Reached.steps {t t' : List (Program (List (Except NamespaceError Bool))) × World σ}
    (h : Reached s t.1 t.2) (hs : Relation.ReflTransGen Program.Step t t') :
    Reached s t'.1 t'.2 := by
  induction hs with
  | refl => exact h
  | tail _ hstep ih => exact ih.step hstep

/-! ## Applying -/

/-- How applying a configuration goes, until it is done or has to wait. -/
inductive Applied (s : RegistrySettings) (t : Files.Tree) (c : NamespaceConfig) (w : World σ) :
    Program (Except NamespaceError Bool) × World σ → Prop
  | fails (e : NamespaceError) (es : List Event)
      (h : ∀ entries order, checkName c.name = .ok () → ¬ Asks s t c entries order) :
      Applied s t c w (.done (.error e), { w with events := es })
  | skips {held : Context} {entries : ArtifactMap} {order : ResolutionOrder} (es : List Event)
      (hasks : Asks s t c entries order) (hheld : w.bound.get? c.name = some held)
      (hsame : isUnchanged held entries order = true) :
      Applied s t c w (.done (.ok false), { w with events := es })
  | adds {ds : List Definition} {entries : ArtifactMap} (hname : checkName c.name = .ok ())
      (hds : c.toDefinitions t = .ok ds) (hentries : extractAll s.extractor ds = .ok entries)
      (hother : ∀ held, w.bound.get? c.name = some held →
        isUnchanged held entries (c.order.getD s.defaultOrder) = false) :
      Applied s t c w
        (((Call.addWithOrder c.name ds (c.order.getD s.defaultOrder)).program s).advance w)

/-- Adding what can be had reports, and then installs. -/
theorem advance_addWithOrder {name : String} {ds : List Definition} {entries : ArtifactMap}
    (hname : checkName name = .ok ()) (hentries : extractAll s.extractor ds = .ok entries)
    (order : ResolutionOrder) {w : World σ} {es : List Event}
    (hes : (extractReporting s ds).advance w =
      (.done (extractAll s.extractor ds), { w with events := es })) :
    ((Call.addWithOrder name ds order).program s).advance w =
      (install s name entries order >>= fun _ => .done (.ok true)).advance
        { w with events := es } := by
  rw [Call.program, addWithOrder, hname]
  show ((extractReporting s ds >>= _) >>= _).advance w = _
  rw [bind_assoc, Program.advance_bind hes, hentries]
  exact congrArg (Program.advance · _) (bind_assoc _ _ _)

/-- Reconciling reports that nothing is to be done, or installs. -/
theorem advance_reconcile (name : String) (entries : ArtifactMap) (order : ResolutionOrder)
    (w : World σ) :
    ∃ e, (reconcile s name entries order >>= fun b => .done (.ok b) :
        Program (Except NamespaceError Bool)).advance w =
      if (w.bound.get? name).any (isUnchanged · entries order) then
        (.done (.ok false), { w with events := e :: w.events })
      else (install s name entries order >>= fun _ => .done (.ok true)).advance w := by
  refine ⟨⟨.debug, origin, "Namespace unchanged, skipping", [("namespace", .text name)]⟩, ?_⟩
  have hreconcile : (reconcile s name entries order >>= fun b => .done (.ok b) :
      Program (Except NamespaceError Bool)).advance w =
        ((if (w.bound.get? name).any (isUnchanged · entries order) = true then do
          Program.perform (.report ⟨.debug, origin, "Namespace unchanged, skipping",
            [("namespace", .text name)]⟩)
          return false
        else do
          install s name entries order
          return true : Program Bool) >>= fun b => .done (.ok b)).advance w := rfl
  rw [hreconcile]
  split
  · rfl
  · rw [bind_assoc]
    rfl

theorem applied (s : RegistrySettings) (t : Files.Tree) (c : NamespaceConfig) (w : World σ) :
    Applied s t c w ((apply s t c).advance w) := by
  rw [apply]
  cases hname : checkName c.name with
  | error e =>
    refine .fails e w.events fun _ _ hok => ?_
    cases hname.symm.trans hok
  | ok _ =>
    cases hds : c.toDefinitions t with
    | error e =>
      refine .fails e w.events fun entries order _ hasks => ?_
      obtain ⟨-, ds, hds', -⟩ := hasks
      cases hds.symm.trans hds'
    | ok ds =>
      obtain ⟨es, hes⟩ := advance_extractReporting (s := s) ds w
      simp only [Program.advance_bind hes]
      cases hentries : extractAll s.extractor ds with
      | error e =>
        refine .fails e es fun entries order _ hasks => ?_
        cases hentries.symm.trans (hasks.extracted hds)
      | ok entries =>
        obtain ⟨e, he⟩ := advance_reconcile (s := s) c.name entries (c.order.getD s.defaultOrder)
          { w with events := es }
        simp only [Program.pure_eq, he]
        split
        · rename_i hany
          obtain ⟨held, hheld, hsame⟩ := (Option.any_eq_true _ _).1 hany
          exact .skips _ ⟨rfl, ds, hds, hentries⟩ hheld hsame
        · rename_i hany
          rw [← advance_addWithOrder hname hentries _ hes]
          refine .adds hname hds hentries fun held hheld => ?_
          simpa [hheld] using hany

/-- Whoever has added what can be had answers so, and the name has it. -/
theorem added {name : String} {ds : List Definition} {entries : ArtifactMap}
    {order : ResolutionOrder} {w w' : World σ} {x : Except NamespaceError Bool}
    (hname : checkName name = .ok ()) (hentries : extractAll s.extractor ds = .ok entries)
    (h : ((Call.addWithOrder name ds order).program s).advance w = (.done x, w')) :
    x = .ok true ∧
      ∃ held, w'.bound.get? name = some held ∧ held.own.entries = entries ∧ held.order = order := by
  obtain ⟨hmeaning, -⟩ := call_means s (.addWithOrder name ds order) w
  have hprepared : prepared s name (.ok ds) = .ok entries :=
    prepared_eq_ok_iff.2 ⟨hname, ds, rfl, hentries⟩
  rw [Program.run_of_advance h, Call.meaning, hprepared] at hmeaning
  obtain ⟨hanswer, hcontents⟩ := Prod.mk.inj hmeaning
  have hget : w'.contents.get? name = some (entries, order) := by
    rw [hcontents, Table.get?_insert_self]
  rw [World.contents, Table.get?_map] at hget
  obtain ⟨held, hheld, hsame⟩ := Option.map_eq_some_iff.1 hget
  obtain ⟨hown, horder⟩ := Prod.mk.inj hsame
  exact ⟨hanswer, held, hheld, hown, horder⟩

/-- What conforms is left alone. -/
theorem advance_of_conforms {w : World σ} (hname : checkName c.name = .ok ())
    (h : Conforms s t c w) :
    ∃ es, (apply s t c).advance w = (.done (.ok false), { w with events := es }) := by
  obtain ⟨held, hheld, hasks⟩ := h
  have happlied := applied s t c w
  generalize (apply s t c).advance w = r at happlied ⊢
  cases happlied with
  | fails e es hnone => exact absurd hasks (hnone _ _ hname)
  | skips es => exact ⟨es, rfl⟩
  | @adds ds entries _ hds hentries hother =>
    obtain ⟨hown, horder⟩ := hasks.unique ⟨rfl, ds, hds, hentries⟩
    have hdiffers := hother held hheld
    rw [← hown, ← horder, isUnchanged, Context.fingerprint] at hdiffers
    simp at hdiffers

/-- Whether a context is unchanged can be told from digests that tell its entries apart. -/
theorem eq_of_isUnchanged {held : Context} {entries : ArtifactMap} {order : ResolutionOrder}
    (hd : Fingerprint.Discerns held.own.entries entries order)
    (hown : ∀ p ∈ held.own.entries.pairs, p.2.key = p.1)
    (hown' : ∀ p ∈ entries.pairs, p.2.key = p.1) (h : isUnchanged held entries order = true) :
    held.own.entries = entries ∧ held.order = order := by
  obtain ⟨horder, hdigest⟩ := (Bool.and_eq_true _ _).mp h |>.imp of_decide_eq_true of_decide_eq_true
  subst horder
  exact ⟨hd.eq hown hown' hdigest, rfl⟩

/-- **Applying brings a namespace in line, once.**  In a world that a registry comes to, if the
digests tell apart what is bound and what is asked for:

* the answer is `false` if and only if the namespace conforms already;
* unless the answer is `true`, nothing but reports is changed;
* if it is neither `false` nor a failure, everything goes as for adding the definitions in the
  order asked for;
* after either answer the namespace conforms, and applying once more answers `false` and changes
  nothing. -/
theorem apply_reconciles {ps : List (Program (List (Except NamespaceError Bool)))} {w : World σ}
    (hw : Reached s ps w) (t : Files.Tree) (c : NamespaceConfig)
    (hd : ∀ held entries order, w.bound.get? c.name = some held → Asks s t c entries order →
      Fingerprint.Discerns held.own.entries entries order) :
    let r := (apply s t c).advance w
    (r.1 = .done (.ok false) ↔ Conforms s t c w) ∧
    (∀ x, r.1 = .done x → x ≠ .ok true → r.2 = { w with events := r.2.events }) ∧
    ((∀ x, r.1 = .done x → x = .ok true) →
      ∃ ds, c.toDefinitions t = .ok ds ∧
        r = ((Call.addWithOrder c.name ds (c.order.getD s.defaultOrder)).program s).advance w) ∧
    ∀ b, r.1 = .done (.ok b) →
      Conforms s t c r.2 ∧
        ∃ es, (apply s t c).advance r.2 = (.done (.ok false), { r.2 with events := es }) := by
  intro r
  obtain ⟨hextracted, -⟩ := hw.extracted
  have hconforms : Conforms s t c w → r.1 = .done (.ok false) := fun h => by
    obtain ⟨held, hheld, -⟩ := id h
    obtain ⟨es, hes⟩ := advance_of_conforms (hextracted _ _ hheld).1 h
    exact congrArg Prod.fst hes
  have happlied : Applied s t c w r := applied s t c w
  generalize r = r at hconforms happlied ⊢
  cases happlied with
  | fails e es hnone =>
    exact ⟨⟨nofun, hconforms⟩, fun _ _ _ => rfl, fun hok => (nomatch hok _ rfl), nofun⟩
  | @skips held entries order es hasks hheld hsame =>
    obtain ⟨-, ds, -, hentries⟩ := id hasks
    obtain ⟨hname, ds', hentries'⟩ := hextracted _ _ hheld
    obtain ⟨rfl, rfl⟩ := eq_of_isUnchanged (hd held entries order hheld hasks)
      (Extraction.own_of_extractAll hentries') (Extraction.own_of_extractAll hentries) hsame
    have h : Conforms s t c w := ⟨held, hheld, hasks⟩
    exact ⟨⟨fun _ => h, hconforms⟩, fun _ _ _ => rfl, fun hok => (nomatch hok _ rfl),
      fun _ _ => ⟨h, advance_of_conforms hname h⟩⟩
  | @adds ds entries hname hds hentries hother =>
    generalize hr : ((Call.addWithOrder c.name ds (c.order.getD s.defaultOrder)).program s).advance
      w = r at hconforms ⊢
    have hadded : ∀ {x}, r.1 = .done x → x = .ok true ∧ Conforms s t c r.2 := fun hdone => by
      obtain ⟨hx, held, hheld, rfl, horder⟩ := added hname hentries (hr.trans (Prod.ext hdone rfl))
      exact ⟨hx, held, hheld, horder, ds, hds, hentries⟩
    refine ⟨⟨fun hdone => ?_, hconforms⟩, fun x hdone hx => absurd (hadded hdone).1 hx,
      fun _ => ⟨ds, hds, hr.symm⟩, fun b hdone => ?_⟩
    · cases (hadded hdone).1
    · obtain ⟨-, h⟩ := hadded hdone
      exact ⟨h, advance_of_conforms hname h⟩

/-- A configuration of one unit of code. -/
def oneUnit (b : UInt8) : NamespaceConfig :=
  .inline "orders" [⟨"a.A", .code, [b]⟩]

/-- What becomes of a new registry to which the first of these is applied. -/
def afterFirst : World Plugin.Directory :=
  ((callAll {} [.apply ⟨[]⟩ (oneUnit 1)]).advance (World.initial ∅)).2

/-- A namespace is applied, changed, and applied again. -/
theorem apply_reconciles_changed :
    ∃ r, (apply {} ⟨[]⟩ (oneUnit 2)).advance afterFirst = r ∧ r.1 = .done (.ok true) ∧
      ¬ Conforms {} ⟨[]⟩ (oneUnit 2) afterFirst ∧ Conforms {} ⟨[]⟩ (oneUnit 2) r.2 ∧
      ((apply {} ⟨[]⟩ (oneUnit 2)).advance r.2).1 = .done (.ok false) := by
  have hw : Reached {} _ afterFirst := Reached.steps
    (.start [[.apply ⟨[]⟩ (oneUnit 1)]] (w := World.initial (∅ : Plugin.Directory)) rfl)
    (Program.steps_advance [] [] _ _)
  have hdefinitions : (oneUnit 2).toDefinitions ⟨[]⟩ = .ok [⟨"a.A", .code, [2]⟩] := by
    decide +kernel
  have hdiscerns : ∀ held ∈ afterFirst.bound.get? "orders",
      ∀ entries ∈ (extractAll {} [⟨"a.A", .code, [2]⟩]).toOption,
        Fingerprint.Discerns held.own.entries entries .childFirst := by decide +kernel
  have hfirst : ((apply {} ⟨[]⟩ (oneUnit 2)).advance afterFirst).1 = .done (.ok true) := by
    refine Program.eq_done_of_result ?_
    decide +kernel
  obtain ⟨hiff, -, -, hafter⟩ := apply_reconciles hw ⟨[]⟩ (oneUnit 2) fun held entries order
    hheld hasks => by
      obtain ⟨rfl, ds, hds, hentries⟩ := hasks
      obtain rfl := Except.ok.inj (hdefinitions.symm.trans hds)
      exact hdiscerns held hheld entries (by rw [hentries]; rfl)
  obtain ⟨hconforms, es, hagain⟩ := hafter true hfirst
  refine ⟨_, rfl, hfirst, fun h => ?_, hconforms, congrArg Prod.fst hagain⟩
  cases hfirst.symm.trans (hiff.2 h)

end Registry

end Tenancy
