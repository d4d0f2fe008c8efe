import Tenancy.Proofs.Artifact.Naming
import Tenancy.Proofs.Bundle.Composition
import Tenancy.Proofs.Zlib

/-!
# Proofs/Bundle/Inventory — the map has what was handed in, and nothing else

A successful extraction has read every entry that it was to take in and stored each of them once:

    definitions  ——HandsIn——  inputs  ——Keeps——  pairs of the map,   one for one

(`Extraction.extractAll_inventory`).  Nothing is lost or added, every entry is read back as it came,
and no key is malformed or refused by the filter.
-/

namespace Tenancy

namespace Extraction

variable {s : ExtractorSettings} {id : String}

/-! ## What is handed in, all of it readable -/

/-- **The files of an archive**: its entries other than directories, each of which can be read. -/
inductive Holds : List (Except Zip.Error Zip.Entry) → List Input → Prop
  | nil : Holds [] []
  | directory {name : String} {content : Except Zip.ContentError Bytes}
      {es : List (Except Zip.Error Zip.Entry)} {is : List Input} (h : Holds es is) :
      Holds (.ok ⟨name, true, content⟩ :: es) is
  | file {name : String} {content : Bytes} {es : List (Except Zip.Error Zip.Entry)}
      {is : List Input} (h : Holds es is) :
      Holds (.ok ⟨name, false, .ok content⟩ :: es) (.file name content :: is)

/-- **The files of the archives in an archive.**  Directories are passed over, and files whose names
have no archive extension. -/
inductive HoldsInner (s : ExtractorSettings) :
    List (Except Zip.Error Zip.Entry) → List Input → Prop
  | nil : HoldsInner s [] []
  | passed {e : Zip.Entry} {es : List (Except Zip.Error Zip.Entry)} {is : List Input}
      (hpassed : e.isDirectory = true ∨ Naming.hasExtension e.name s.archiveExtensions = false)
      (h : HoldsInner s es is) : HoldsInner s (.ok e :: es) is
  | archive {name : String} {payload : Bytes} {inner es : List (Except Zip.Error Zip.Entry)}
      {is is' : List Input} (hext : Naming.hasExtension name s.archiveExtensions = true)
      (hread : Zip.read payload = .ok inner) (hin : Holds inner is) (h : HoldsInner s es is') :
      HoldsInner s (.ok ⟨name, false, .ok payload⟩ :: es) (is ++ is')

/-- **All that a definition hands in.** -/
inductive HandsIn (s : ExtractorSettings) : Definition → List Input → Prop
  | unit {id : String} {payload : Bytes} : HandsIn s ⟨id, .code, payload⟩ [.unit id payload]
  | files {id : String} {payload : Bytes} {es : List (Except Zip.Error Zip.Entry)}
      {is : List Input} (hread : Zip.read payload = .ok es) (h : Holds es is) :
      HandsIn s ⟨id, .archive, payload⟩ is
  | innerFiles {id : String} {payload : Bytes} {es : List (Except Zip.Error Zip.Entry)}
      {is : List Input} (hread : Zip.read payload = .ok es) (h : HoldsInner s es is) :
      HandsIn s ⟨id, .archivesInZip, payload⟩ is

/-- **An input is kept as a pair**: under the key of its name, to be read back as it came. -/
structure Keeps (s : ExtractorSettings) (i : Input) (p : ArtifactKey × Entry) : Prop where
  key : i.key? s = some p.1
  own : p.2.key = p.1
  content : p.2.decompress = .ok i.content
  plainLength : p.2.plainLength = i.content.length

/-! ## Steps without a failure -/

/-- Each input is stored under some key. -/
def AllStored (s : ExtractorSettings) (is : List Input) : Prop :=
  ∀ i ∈ is, ∃ p, i.stored? s = some p

theorem not_unfailing_fail {e : NamespaceError} {steps : List Step} :
    ¬ Unfailing (.fail e :: steps) :=
  fun h => h e List.mem_cons_self

theorem allStored_append {is is' : List Input} (h : AllStored s is) (h' : AllStored s is') :
    AllStored s (is ++ is') :=
  List.forall_mem_append.2 ⟨h, h'⟩

theorem allStored_unit {d : Definition} (h : Unfailing (unitOutline s d)) :
    AllStored s [.unit d.id d.payload] := by
  refine List.forall_mem_singleton.2 ?_
  unfold unitOutline at h
  cases hid : Naming.canonicalId? d.id s.codeExtensions with
  | none => rw [hid] at h; exact absurd h not_unfailing_fail
  | some id =>
    rw [hid] at h
    by_cases hallowed : s.filter.isAllowed id
    · exact ⟨_, by simp [Input.stored?, Input.key?, hid, ArtifactKey.code, hallowed]; rfl⟩
    · simp only [hallowed] at h
      exact absurd h not_unfailing_fail

theorem stored_of_unfailing_file {name : String} {content : Bytes}
    (h : Unfailing (fileOutline s id name content)) :
    ∃ p, (Input.file name content).stored? s = some p := by
  unfold fileOutline at h
  cases hkey : Naming.classify? name s.codeExtensions with
  | none => rw [hkey] at h; exact absurd h not_unfailing_fail
  | some key =>
    simp only [hkey] at h
    simp only [Input.stored?, Input.key?, hkey, Option.bind_some]
    split at h
    · exact absurd h not_unfailing_fail
    · rename_i hallowed
      rw [if_neg hallowed]
      exact ⟨_, rfl⟩

/-- An archive none of whose entries fails can be read to the end. -/
theorem holds_of_unfailing {es : List (Except Zip.Error Zip.Entry)}
    (h : Unfailing (es.flatMap (entryOutline s id))) :
    Holds es (es.flatMap filesOfEntry) ∧ AllStored s (es.flatMap filesOfEntry) := by
  induction es with
  | nil => exact ⟨.nil, nofun⟩
  | cons x es ih =>
    obtain ⟨hx, hes⟩ := List.forall_mem_cons.1 (unfailing_flatMap.1 h)
    obtain ⟨hholds, hstored⟩ := ih (unfailing_flatMap.2 hes)
    rw [List.flatMap_cons]
    match x with
    | .error e => exact absurd hx not_unfailing_fail
    | .ok ⟨name, true, content⟩ => exact ⟨.directory hholds, hstored⟩
    | .ok ⟨name, false, .error e⟩ => exact absurd hx not_unfailing_fail
    | .ok ⟨name, false, .ok content⟩ =>
      exact ⟨.file hholds, List.forall_mem_cons.2 ⟨stored_of_unfailing_file hx, hstored⟩⟩

theorem holds_of_unfailing_archive {l : Zip.Listing} (h : Unfailing (archiveOutline s id l)) :
    ∃ es, l = .ok es ∧ Holds es (filesOf l) ∧ AllStored s (filesOf l) := by
  cases l with
  | error e => exact absurd h not_unfailing_fail
  | ok es => exact ⟨es, rfl, holds_of_unfailing fun e he => h e (List.mem_append_left _ he)⟩

/-- So can the archives in one. -/
theorem holdsInner_of_unfailing {es : List (Except Zip.Error Zip.Entry)}
    (h : Unfailing (es.flatMap (innerOutline s id))) :
    let is := (es.flatMap (innerOfEntry s id)).flatMap fun a => filesOf (Zip.read a.payload)
    HoldsInner s es is ∧ AllStored s is := by
  induction es with
  | nil => exact ⟨.nil, nofun⟩
  | cons x es ih =>
    obtain ⟨hx, hes⟩ := List.forall_mem_cons.1 (unfailing_flatMap.1 h)
    obtain ⟨hholds, hstored⟩ := ih (unfailing_flatMap.2 hes)
    rw [List.flatMap_cons, List.flatMap_append]
    cases x with
    | error e => exact absurd hx not_unfailing_fail
    | ok e =>
      simp only [innerOutline, innerOfEntry] at hx ⊢
      split at hx
      · rename_i hpassed
        rw [if_pos hpassed]
        refine ⟨.passed ?_ hholds, hstored⟩
        simpa using hpassed
      · rename_i htaken
        obtain ⟨name, isDirectory, content⟩ := e
        obtain ⟨rfl, hext⟩ : isDirectory = false ∧
            Naming.hasExtension name s.archiveExtensions = true := by simpa using htaken
        cases content with
        | error c => exact absurd hx not_unfailing_fail
        | ok payload =>
          obtain ⟨inner, hread, hin, hinStored⟩ := holds_of_unfailing_archive hx
          rw [if_neg htaken, List.flatMap_singleton]
          exact ⟨.archive hext hread hin hholds, allStored_append hinStored hstored⟩

theorem handsIn_of_unfailing {d : Definition} (h : Unfailing (outline s d)) :
    HandsIn s d (inputs s d) ∧ AllStored s (inputs s d) := by
  obtain ⟨id, kind, payload⟩ := d
  cases kind with
  | code => exact ⟨.unit, allStored_unit h⟩
  | archive =>
    obtain ⟨es, hread, hholds, hstored⟩ := holds_of_unfailing_archive h
    exact ⟨.files hread hholds, hstored⟩
  | archivesInZip =>
    simp only [outline, nestedOutline, inputs] at h ⊢
    cases hread : Zip.read payload with
    | error e => rw [hread] at h; exact absurd h not_unfailing_fail
    | ok es =>
      rw [hread] at h
      obtain ⟨hholds, hstored⟩ := holdsInner_of_unfailing h
      exact ⟨.innerFiles hread hholds, hstored⟩

/-! ## What is kept -/

theorem Input.keeps_of_stored {i : Input} {p : ArtifactKey × Entry} (h : i.stored? s = some p) :
    Keeps s i p := by
  have hkey := key_of_stored h
  obtain ⟨key, -, hp⟩ := Option.bind_eq_some_iff.1 h
  split at hp
  · cases hp
  · cases hp
    exact ⟨hkey, rfl, Entry.decompress_compress key i.content, rfl⟩

/-- The key of what is stored is well formed and allowed. -/
theorem Input.isKey_of_stored {i : Input} {p : ArtifactKey × Entry} (h : i.stored? s = some p) :
    Naming.IsKey s p.1 := by
  have hkey := key_of_stored h
  have hallowed : p.1.kind = .code → s.filter.isAllowed p.1.id = true := by
    obtain ⟨key, -, hp⟩ := Option.bind_eq_some_iff.1 h
    intro hcode
    split at hp
    · cases hp
    · rename_i hnot
      cases hp
      simpa [show key.kind = .code from hcode] using hnot
  cases i with
  | unit id content =>
    obtain ⟨canonical, hid, hp⟩ := Option.map_eq_some_iff.1 hkey
    rw [← hp] at hallowed ⊢
    exact .code (Naming.isDotted_canonicalId hid) (hallowed rfl)
  | file name content => exact Naming.isKey_classify hkey hallowed

/-- An entry of an extraction is what storing some content under its key gives. -/
theorem compressed_of_stored {steps : List Step} {p : ArtifactKey × Entry} (h : p ∈ stored steps) :
    ∃ content, p.2 = .compress p.1 content := by
  obtain ⟨step, -, hstep⟩ := List.mem_filterMap.1 h
  cases step with
  | store key content => exact ⟨content, by cases hstep; rfl⟩
  | report e => cases hstep
  | fail e => cases hstep

/-- Each entry of an extraction has the key that it is stored under. -/
theorem own_of_extractAll {ds : List Definition} {m : ArtifactMap} (h : extractAll s ds = .ok m)
    (p : ArtifactKey × Entry) (hp : p ∈ m.pairs) : p.2.key = p.1 := by
  rw [extractAll, store_empty_eq_ok_iff] at h
  obtain ⟨content, hcontent⟩ := compressed_of_stored (h.2.mem_iff.1 hp)
  rw [hcontent]
  rfl

theorem forall₂_filterMap {α β : Type} {f : α → Option β} {l : List α}
    (h : ∀ a ∈ l, ∃ b, f a = some b) :
    List.Forall₂ (fun a b => f a = some b) l (l.filterMap f) := by
  induction l with
  | nil => exact .nil
  | cons a l ih =>
    obtain ⟨⟨b, hb⟩, hl⟩ := List.forall_mem_cons.1 h
    rw [List.filterMap_cons, hb]
    exact .cons hb (ih hl)

/-! ## All definitions -/

/-- **An extraction stores what it was handed, and nothing else.**  Every entry that was to be taken
in has been read, and each of them has one pair of the map, under the key of its name, from which it
is read back; the map has no other pairs.  Ids of code are dotted and allowed by the filter, paths
of data files are relative and have no code extension. -/
theorem extractAll_inventory {ds : List Definition} {m : ArtifactMap}
    (h : extractAll s ds = .ok m) :
    ∃ iss ps, List.Forall₂ (HandsIn s) ds iss ∧ List.Forall₂ (Keeps s) iss.flatten ps ∧
      m.pairs.Perm ps ∧ ∀ key ∈ m.keys, Naming.IsKey s key := by
  rw [extractAll, store_empty_eq_ok_iff, unfailing_flatMap, stored_flatMap] at h
  obtain ⟨hunfailing, hperm⟩ := h
  simp only [stored_outline, ← List.filterMap_flatMap] at hperm
  have hhanded : List.Forall₂ (HandsIn s) ds (ds.map (inputs s)) :=
    List.forall₂_map_right_iff.2
      (List.forall₂_same.2 fun d hd => (handsIn_of_unfailing (hunfailing d hd)).1)
  have hstored : AllStored s (ds.flatMap (inputs s)) := fun i hi => by
    obtain ⟨d, hd, hid⟩ := List.mem_flatMap.1 hi
    exact (handsIn_of_unfailing (hunfailing d hd)).2 i hid
  refine ⟨ds.map (inputs s), _, hhanded, ?_, hperm, fun key hkey => ?_⟩
  · rw [← List.flatMap_def]
    exact (forall₂_filterMap hstored).imp fun _ _ => Input.keeps_of_stored
  · obtain ⟨p, hp, rfl⟩ := List.mem_map.1 hkey
    obtain ⟨i, -, hi⟩ := List.mem_filterMap.1 (hperm.mem_iff.1 hp)
    exact Input.isKey_of_stored hi

/-- A unit, a file of an archive and a file of an archive in an archive; directories and files
other than archives are passed over. -/
theorem extractAll_inventory_three :
    let ds : List Definition := [⟨"a/B.class", .code, [1]⟩,
      ⟨"files", .archive, Zip.write [("d/", []), ("/d/x.txt", [2, 3])]⟩,
      ⟨"outer", .archivesInZip, Zip.write [("notes", []), ("in.jar", Zip.write [("C.class", [])])]⟩]
    ∃ m, extractAll {} ds = .ok m ∧ m.keys = [.code "C", .code "a.B", .data "d/x.txt"] ∧
      ∃ iss ps, List.Forall₂ (HandsIn {}) ds iss ∧ List.Forall₂ (Keeps {}) iss.flatten ps ∧
        m.pairs.Perm ps ∧ ∀ key ∈ m.keys, Naming.IsKey {} key := by
  intro ds
  have hkeys : (extractAll {} ds).map Table.keys =
      .ok [.code "C", .code "a.B", .data "d/x.txt"] := by decide +kernel
  cases h : extractAll {} ds with
  | error e => rw [h] at hkeys; cases hkeys
  | ok m =>
    rw [h] at hkeys
    exact ⟨m, rfl, Except.ok.inj hkeys, extractAll_inventory h⟩

end Extraction

end Tenancy
