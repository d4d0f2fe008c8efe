import Tenancy.Proofs.Bundle.Storing
import Tenancy.Zip.Writer

/-!
# Proofs/Bundle/Composition — extraction, one definition at a time

Definitions are taken apart together if and only if each can be taken apart alone and no two of them
give the same key; the result is the union of theirs (`extractAll_eq_ok_iff`).  So neither the order
of the definitions matters nor the order of the entries in their archives
(`extractAll_reordered`).  An archive of archives is no more than the archives in it
(`Extraction.extract_nested`).
-/

namespace Tenancy

namespace Extraction

variable {s : ExtractorSettings} {id : String}

/-! ## What is handed in -/

/-- A code unit by its id, or a file of an archive by its name. -/
inductive Input where
  | unit (id : String) (content : Bytes)
  | file (name : String) (content : Bytes)

namespace Input

def content : Input → Bytes
  | .unit _ content => content
  | .file _ content => content

/-- **The key that the name of an input stands for**, if it stands for one. -/
def key? (s : ExtractorSettings) : Input → Option ArtifactKey
  | .unit id _ => (Naming.canonicalId? id s.codeExtensions).map .code
  | .file name _ => Naming.classify? name s.codeExtensions

/-- What is stored for an input, unless its name is unusable or refused. -/
def stored? (s : ExtractorSettings) (i : Input) : Option (ArtifactKey × Entry) :=
  (i.key? s).bind fun key =>
    if key.kind = .code && !s.filter.isAllowed key.id then none
    else some (key, .compress key i.content)

/-- The step that an input is for: unless its name is unusable, it is stored or refused. -/
def step? (s : ExtractorSettings) (i : Input) : Option Step :=
  (i.key? s).map fun key =>
    if key.kind = .code && !s.filter.isAllowed key.id then .fail (.artifactRejected key.id)
    else .store key i.content

end Input

/-- What an entry of an archive hands in, unless it is a directory or cannot be read. -/
def filesOfEntry : Except Zip.Error Zip.Entry → List Input
  | .error _ => []
  | .ok e =>
    if e.isDirectory then []
    else
      match e.content with
      | .error _ => []
      | .ok content => [.file e.name content]

def filesOf : Zip.Listing → List Input
  | .error _ => []
  | .ok entries => entries.flatMap filesOfEntry

/-- The archive that an entry of an archive of archives is, if it is no directory and its name has
an archive extension. -/
def innerOfEntry (s : ExtractorSettings) (id : String) :
    Except Zip.Error Zip.Entry → List Definition
  | .error _ => []
  | .ok e =>
    if e.isDirectory || !Naming.hasExtension e.name s.archiveExtensions then []
    else
      match e.content with
      | .error _ => []
      | .ok content => [⟨innerId id e.name, .archive, content⟩]

def innerArchives (s : ExtractorSettings) (id : String) : Zip.Listing → List Definition
  | .error _ => []
  | .ok entries => entries.flatMap (innerOfEntry s id)

/-- **Everything that a definition hands in**, as far as it can be read. -/
def inputs (s : ExtractorSettings) (d : Definition) : List Input :=
  match d.kind with
  | .code => [.unit d.id d.payload]
  | .archive => filesOf (Zip.read d.payload)
  | .archivesInZip =>
    (innerArchives s d.id (Zip.read d.payload)).flatMap fun a => filesOf (Zip.read a.payload)

/-! ### What is done with it -/

/-- An input is stored or refused here; the other steps are about what is no input. -/
def Step.isOfInput : Step → Bool
  | .store .. => true
  | .fail (.artifactRejected _) => true
  | _ => false

theorem steps_unitOutline (d : Definition) :
    (unitOutline s d).filter Step.isOfInput =
      [Input.unit d.id d.payload].filterMap (Input.step? s) := by
  unfold unitOutline
  cases hid : Naming.canonicalId? d.id s.codeExtensions with
  | none => simp [Step.isOfInput, Input.step?, Input.key?, hid]
  | some id =>
    by_cases hallowed : s.filter.isAllowed id <;>
      simp [Step.isOfInput, Input.step?, Input.key?, Input.content, ArtifactKey.code, hid,
        hallowed]

theorem steps_fileOutline (name : String) (content : Bytes) :
    (fileOutline s id name content).filter Step.isOfInput =
      [Input.file name content].filterMap (Input.step? s) := by
  unfold fileOutline
  cases hkey : Naming.classify? name s.codeExtensions with
  | none => simp [Step.isOfInput, Input.step?, Input.key?, hkey]
  | some key =>
    simp only [List.filterMap_cons, List.filterMap_nil, Input.step?, Input.key?, hkey,
      Option.map_some, Input.content]
    split <;> rfl

theorem steps_entryOutline (e : Except Zip.Error Zip.Entry) :
    (entryOutline s id e).filter Step.isOfInput =
      (filesOfEntry e).filterMap (Input.step? s) := by
  cases e with
  | error e => rfl
  | ok e =>
    simp only [entryOutline, filesOfEntry]
    split
    · rfl
    · cases e.content with
      | error c => rfl
      | ok content => exact steps_fileOutline e.name content

theorem steps_archiveOutline (l : Zip.Listing) :
    (archiveOutline s id l).filter Step.isOfInput = (filesOf l).filterMap (Input.step? s) := by
  cases l with
  | error e => rfl
  | ok entries =>
    rw [archiveOutline, filesOf, List.filter_append, List.filter_flatMap, List.filterMap_flatMap]
    refine (List.append_nil _).trans ?_
    simp only [steps_entryOutline]

theorem steps_innerOutline (e : Except Zip.Error Zip.Entry) :
    (innerOutline s id e).filter Step.isOfInput = ((innerOfEntry s id e).flatMap fun a =>
      filesOf (Zip.read a.payload)).filterMap (Input.step? s) := by
  cases e with
  | error e => rfl
  | ok e =>
    simp only [innerOutline, innerOfEntry]
    split
    · rfl
    · cases e.content with
      | error c => rfl
      | ok content => simp only [steps_archiveOutline, List.flatMap_singleton]

/-- **Inputs and nothing else are stored or refused**, each in its place. -/
theorem steps_outline (s : ExtractorSettings) (d : Definition) :
    (outline s d).filter Step.isOfInput = (inputs s d).filterMap (Input.step? s) := by
  unfold outline inputs
  cases d.kind with
  | code => exact steps_unitOutline d
  | archive => exact steps_archiveOutline (Zip.read d.payload)
  | archivesInZip =>
    simp only [nestedOutline, innerArchives]
    cases Zip.read d.payload with
    | error e => rfl
    | ok entries =>
      simp only [List.filter_flatMap, steps_innerOutline, List.filterMap_flatMap,
        List.flatMap_assoc]

theorem Step.isOfInput_of_stored {step : Step} (h : step.stored?.isSome) : step.isOfInput := by
  cases step <;> first | rfl | cases h

/-- What is stored for an input is what its step stores. -/
theorem Input.stored?_eq (i : Input) : i.stored? s = (i.step? s).bind Step.stored? := by
  rw [Input.stored?, Input.step?, Option.bind_map]
  refine congrArg (i.key? s).bind (funext fun key => ?_)
  rw [Function.comp_apply]
  split <;> rfl

theorem stored_outline (s : ExtractorSettings) (d : Definition) :
    stored (outline s d) = (inputs s d).filterMap (Input.stored? s) := by
  have hof : stored (outline s d) =
      ((outline s d).filter Step.isOfInput).filterMap Step.stored? := by
    rw [List.filterMap_filter]
    refine List.filterMap_congr fun step _ => ?_
    split
    · rfl
    · exact Option.not_isSome_iff_eq_none.1 (mt Step.isOfInput_of_stored ‹_›)
  rw [hof, steps_outline, List.filterMap_filterMap]
  exact List.filterMap_congr fun i _ => i.stored?_eq.symm

/-- What is stored goes by the key that the name stands for. -/
theorem Input.key_of_stored {i : Input} {p : ArtifactKey × Entry} (h : i.stored? s = some p) :
    i.key? s = some p.1 := by
  obtain ⟨key, hkey, hp⟩ := Option.bind_eq_some_iff.1 h
  split at hp
  · cases hp
  · cases hp
    exact hkey

theorem count_stored_le (is : List Input) (key : ArtifactKey) :
    ((is.filterMap (Input.stored? s)).map Prod.fst).count key ≤
      is.countP fun i => i.key? s = some key := by
  induction is with
  | nil => exact Nat.le_refl _
  | cons i is ih =>
    rw [List.filterMap_cons, List.countP_cons]
    cases hstored : i.stored? s with
    | none => exact Nat.le_add_right_of_le ih
    | some p =>
      rw [List.map_cons, List.count_cons, Input.key_of_stored hstored]
      simpa using ih

/-! ## What can fail -/

/-- The resource cannot be taken apart, or the filter refuses a unit of it. -/
inductive Refusal : NamespaceError → Prop
  | format (id : String) (fault : FormatFault) : Refusal (.resourceFormat id fault)
  | rejected (id : String) : Refusal (.artifactRejected id)

def Refuses (steps : List Step) : Prop :=
  ∀ e, .fail e ∈ steps → Refusal e

theorem refuses_flatMap {α : Type} {f : α → List Step} (h : ∀ a, Refuses (f a)) (l : List α) :
    Refuses (l.flatMap f) := by
  intro e he
  obtain ⟨a, -, ha⟩ := List.mem_flatMap.1 he
  exact h a e ha

theorem refuses_fail {e : NamespaceError} (h : Refusal e) : Refuses [.fail e] := by
  intro e' he
  cases List.mem_singleton.1 he
  exact h

theorem refuses_unitOutline (d : Definition) : Refuses (unitOutline s d) := by
  unfold unitOutline
  split
  · exact refuses_fail (.format _ _)
  · split
    · simp [Refuses]
    · exact refuses_fail (.rejected _)

theorem refuses_fileOutline (name : String) (content : Bytes) :
    Refuses (fileOutline s id name content) := by
  unfold fileOutline
  split
  · exact refuses_fail (.format _ _)
  · split
    · exact refuses_fail (.rejected _)
    · simp [Refuses]

theorem refuses_entryOutline (e : Except Zip.Error Zip.Entry) :
    Refuses (entryOutline s id e) := by
  unfold entryOutline
  split
  · exact refuses_fail (.format _ _)
  · split
    · exact nofun
    · split
      · exact refuses_fail (.format _ _)
      · exact refuses_fileOutline _ _

theorem refuses_archiveOutline (l : Zip.Listing) : Refuses (archiveOutline s id l) := by
  cases l with
  | error e => exact refuses_fail (.format _ _)
  | ok entries =>
    intro e he
    rcases List.mem_append.1 he with he | he
    · exact refuses_flatMap refuses_entryOutline entries e he
    · simp at he

theorem refuses_innerOutline (e : Except Zip.Error Zip.Entry) :
    Refuses (innerOutline s id e) := by
  unfold innerOutline
  split
  · exact refuses_fail (.format _ _)
  · split
    · simp [Refuses]
    · split
      · exact refuses_fail (.format _ _)
      · exact refuses_archiveOutline _

theorem refuses_outline (s : ExtractorSettings) (d : Definition) : Refuses (outline s d) := by
  unfold outline
  cases d.kind with
  | code => exact refuses_unitOutline d
  | archive => exact refuses_archiveOutline _
  | archivesInZip =>
    unfold nestedOutline
    cases Zip.read d.payload with
    | error e => exact refuses_fail (.format _ _)
    | ok entries => exact refuses_flatMap refuses_innerOutline entries

/-! ## Other orders -/

/-- **The same definition with the entries of its archives in another order**, those of the archives
in an archive of archives included. -/
inductive Reordered : Definition → Definition → Prop
  | refl (d : Definition) : Reordered d d
  | entries {id : String} {kind : BundleKind} {payload payload' : Bytes}
      {es es' : List (Except Zip.Error Zip.Entry)} (hkind : kind ≠ .code)
      (h : Zip.read payload = .ok es) (h' : Zip.read payload' = .ok es') (hperm : es.Perm es') :
      Reordered ⟨id, kind, payload⟩ ⟨id, kind, payload'⟩
  | inner {id name : String} {isDirectory : Bool} {payload payload' content content' : Bytes}
      {before after : List (Except Zip.Error Zip.Entry)}
      (h : Zip.read payload = .ok (before ++ .ok ⟨name, isDirectory, .ok content⟩ :: after))
      (h' : Zip.read payload' = .ok (before ++ .ok ⟨name, isDirectory, .ok content'⟩ :: after))
      (hin : Reordered ⟨innerId id name, .archive, content⟩ ⟨innerId id name, .archive, content'⟩) :
      Reordered ⟨id, .archivesInZip, payload⟩ ⟨id, .archivesInZip, payload'⟩
  | trans {d d' d'' : Definition} (h : Reordered d d') (h' : Reordered d' d'') : Reordered d d''

theorem perm_archiveOutline {es es' : List (Except Zip.Error Zip.Entry)} (h : es.Perm es') :
    (archiveOutline s id (.ok es)).Perm (archiveOutline s id (.ok es')) := by
  have hsteps := h.flatMap_right (entryOutline s id)
  -- the report at the end counts what is stored, in any order
  simp only [archiveOutline, hsteps.countP_eq]
  exact hsteps.append_right _

/-- The outlines have the same steps. -/
theorem Reordered.outline_perm {d d' : Definition} (h : Reordered d d') :
    (outline s d).Perm (outline s d') := by
  induction h with
  | refl d => exact .refl _
  | @entries id kind payload payload' es es' hkind h h' hperm =>
    cases kind with
    | code => exact absurd rfl hkind
    | archive =>
      simp only [outline, h, h']
      exact perm_archiveOutline hperm
    | archivesInZip =>
      simp only [outline, nestedOutline, h, h']
      exact hperm.flatMap_right _
  | @inner id name isDirectory payload payload' content content' before after h h' _ ih =>
    have hentry : (innerOutline s id (.ok ⟨name, isDirectory, .ok content⟩)).Perm
        (innerOutline s id (.ok ⟨name, isDirectory, .ok content'⟩)) := by
      simp only [innerOutline]
      split
      · exact .refl _
      · exact ih
    simp only [outline, nestedOutline, h, h', List.flatMap_append, List.flatMap_cons]
    exact (hentry.append_right _).append_left _
  | trans _ _ ih ih' => exact ih.trans ih'

/-! ## One definition at a time -/

theorem extract_eq_ok_iff {d : Definition} {m : ArtifactMap} :
    extract s d = .ok m ↔ Unfailing (outline s d) ∧ m.pairs.Perm (stored (outline s d)) :=
  store_empty_eq_ok_iff

/-- Definitions that each can be taken apart alone. -/
abbrev Extracts (s : ExtractorSettings) : List Definition → List ArtifactMap → Prop :=
  List.Forall₂ fun d m => extract s d = .ok m

namespace Extracts

variable {ds : List Definition} {ms : List ArtifactMap}

theorem unfailing (h : Extracts s ds ms) : ∀ d ∈ ds, Unfailing (outline s d) := by
  induction h with
  | nil => exact nofun
  | cons hd _ ih => exact List.forall_mem_cons.2 ⟨(extract_eq_ok_iff.1 hd).1, ih⟩

theorem perm (h : Extracts s ds ms) :
    (ms.flatMap Table.pairs).Perm (ds.flatMap fun d => stored (outline s d)) := by
  induction h with
  | nil => exact .refl _
  | cons hd _ ih => exact (extract_eq_ok_iff.1 hd).2.append ih

theorem exists_of_unfailing (h : ∀ d ∈ ds, Unfailing (outline s d))
    (hkeys : ((ds.flatMap fun d => stored (outline s d)).map Prod.fst).Nodup) :
    ∃ ms, Extracts s ds ms := by
  induction ds with
  | nil => exact ⟨[], .nil⟩
  | cons d ds ih =>
    obtain ⟨hd, hds⟩ := List.forall_mem_cons.1 h
    rw [List.flatMap_cons, List.map_append] at hkeys
    obtain ⟨hfirst, hrest, -⟩ := List.nodup_append.1 hkeys
    obtain ⟨m, hm⟩ := Table.exists_of_nodup hfirst
    obtain ⟨ms, hms⟩ := ih hds hrest
    exact ⟨m :: ms, .cons (extract_eq_ok_iff.2 ⟨hd, hm⟩) hms⟩

end Extracts

/-- **Definitions can be taken apart together if and only if each can alone and no two share a
key**; then the result is the union. -/
theorem extractAll_eq_ok_iff (ds : List Definition) (m : ArtifactMap) :
    extractAll s ds = .ok m ↔
      ∃ ms, Extracts s ds ms ∧ ms.Pairwise Table.Disjoint ∧ m.IsUnion ms := by
  rw [extractAll, store_empty_eq_ok_iff, unfailing_flatMap, stored_flatMap]
  constructor
  · rintro ⟨hunfailing, hperm⟩
    obtain ⟨ms, hms⟩ := Extracts.exists_of_unfailing hunfailing
      ((hperm.map Prod.fst).nodup m.nodup_keys)
    exact ⟨ms, hms, Table.perm_flatMap_iff.1 (hperm.trans hms.perm.symm)⟩
  · rintro ⟨ms, hms, hunion⟩
    exact ⟨hms.unfailing, (Table.perm_flatMap_iff.2 hunion).trans hms.perm⟩

/-- The order of definitions and of the entries in them does not matter. -/
theorem extractAll_reordered {ds ds' ds'' : List Definition} (h : ds.Perm ds')
    (h' : List.Forall₂ Reordered ds' ds'') (m : ArtifactMap) :
    extractAll s ds = .ok m ↔ extractAll s ds'' = .ok m := by
  have hsteps : (ds'.flatMap (outline s)).Perm (ds''.flatMap (outline s)) := by
    clear h
    induction h' with
    | nil => exact .refl _
    | cons hd _ ih => exact hd.outline_perm.append ih
  exact store_perm ((h.flatMap_right (outline s)).trans hsteps)

/-- Taking definitions apart fails as one of them does, or on a key that two inputs stand for. -/
theorem extractAll_eq_error {ds : List Definition} {e : NamespaceError}
    (h : extractAll s ds = .error e) : Refusal e ∨ ∃ key, e = .duplicateResource key ∧
      2 ≤ (ds.flatMap (inputs s)).countP fun i => i.key? s = some key := by
  refine (store_eq_error h).imp (refuses_flatMap (refuses_outline s) ds e) ?_
  rintro ⟨key, rfl, hcount⟩
  have hstored : stored (ds.flatMap (outline s)) =
      (ds.flatMap (inputs s)).filterMap (Input.stored? s) := by
    simp only [stored_flatMap, stored_outline, List.filterMap_flatMap]
  rw [hstored] at hcount
  exact ⟨key, rfl, Nat.le_trans hcount (count_stored_le _ key)⟩

/-! ## Archives of archives -/

/-- Every entry of an archive can be read. -/
def Readable (entries : List (Except Zip.Error Zip.Entry)) : Prop :=
  ∀ x ∈ entries, ∃ e content, x = .ok e ∧ e.content = .ok content

/-- **An archive of archives is no more than the archives in it**, up to reports. -/
theorem extract_nested {payload : Bytes} {entries : List (Except Zip.Error Zip.Entry)}
    (h : Zip.read payload = .ok entries) (hreadable : Readable entries) :
    extract s ⟨id, .archivesInZip, payload⟩ = extractAll s (innerArchives s id (.ok entries)) := by
  have hsteps : (entries.flatMap (innerOutline s id)).filter Step.matters =
      ((innerArchives s id (.ok entries)).flatMap (outline s)).filter Step.matters := by
    simp only [innerArchives, List.flatMap_assoc, List.filter_flatMap]
    refine List.flatMap_congr fun x hx => ?_
    obtain ⟨e, content, rfl, hcontent⟩ := hreadable x hx
    simp only [innerOutline, innerOfEntry, hcontent]
    split
    · rfl
    · simp only [List.flatMap_singleton]
      rfl
  rw [extract, extractAll, ← store_filter_matters, ← store_filter_matters (List.flatMap _ _),
    ← hsteps]
  simp only [outline, nestedOutline, h]

/-! ## All together -/

/-- **Extraction is compositional and independent of order.**  It succeeds on definitions together
as it does on each alone, where no two give the same key, and gives the union; it gives the same
when definitions, or entries in their archives, come in another order; it fails as one of the
definitions does, or on a key that two inputs stand for; and an archive of archives all of whose
entries can be read is taken apart, failures included, as the archives in it are. -/
theorem extractAll_composes (s : ExtractorSettings) :
    (∀ ds m, extractAll s ds = .ok m ↔
      ∃ ms, Extracts s ds ms ∧ ms.Pairwise Table.Disjoint ∧ m.IsUnion ms) ∧
    (∀ ds ds' ds'' m, ds.Perm ds' → List.Forall₂ Reordered ds' ds'' →
      (extractAll s ds = .ok m ↔ extractAll s ds'' = .ok m)) ∧
    (∀ ds e, extractAll s ds = .error e → Refusal e ∨ ∃ key, e = .duplicateResource key ∧
      2 ≤ (ds.flatMap (inputs s)).countP fun i => i.key? s = some key) ∧
    ∀ id payload entries, Zip.read payload = .ok entries → Readable entries →
      extract s ⟨id, .archivesInZip, payload⟩ =
        extractAll s (innerArchives s id (.ok entries)) := by
  refine ⟨extractAll_eq_ok_iff, fun ds ds' ds'' m h h' => ?_, fun ds e h => ?_,
    fun id payload entries h hreadable => ?_⟩
  · exact extractAll_reordered h h' m
  · exact extractAll_eq_error h
  · exact extract_nested h hreadable

/-- A directory is passed over, even where its name has an archive extension; it is not taken apart
as an archive that cannot be read. -/
theorem extract_nested_directory :
    let s : ExtractorSettings := { archiveExtensions := ["jar/"] }
    let payload := Zip.write [("x.jar/", [])]
    s.validate = .ok () ∧ Naming.hasExtension "x.jar/" s.archiveExtensions = true ∧
      (Zip.read payload).toOption.map (List.map fun x =>
        x.toOption.map fun e => (e.name, e.content.toOption)) = some [some ("x.jar/", some [])] ∧
      extract s ⟨"outer", .archivesInZip, payload⟩ ≠
        extractAll s [⟨innerId "outer" "x.jar/", .archive, []⟩] := by
  intro s payload
  have hpassed : (extract s ⟨"outer", .archivesInZip, payload⟩).toOption.isSome = true := by
    decide +kernel
  have hbroken : (extractAll s [⟨innerId "outer" "x.jar/", .archive, []⟩]).toOption.isSome =
      false := by decide +kernel
  refine ⟨by decide, by decide +kernel, by decide +kernel, fun hsame => ?_⟩
  rw [hsame, hbroken] at hpassed
  cases hpassed

end Extraction

end Tenancy
