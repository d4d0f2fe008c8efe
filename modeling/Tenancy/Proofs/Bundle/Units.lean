import Tenancy.Proofs.Artifact.Spelling
import Tenancy.Proofs.Bundle.Inventory

/-!
# Proofs/Bundle/Units — one unit, one entry

    … name₁ … name₂ …  ⟶  refused, or twice the same key

Two names of one code unit are never kept side by side: what is handed in under the second is at
the latest what the extraction fails on (`Extraction.extractAll_spellings`).  A unit that is handed
in again by its id is kept as it was, if its id is one that nothing is taken off
(`Extraction.extract_again`).
-/

namespace Tenancy

namespace Extraction

open Naming (IsPlainExtension IsUnit IsBare IsFixed unitChars)

variable {s : ExtractorSettings} {id : String} {steps : List Step} {m : ArtifactMap}

/-! ## Two steps for one unit -/

/-- The step stores the unit, or refuses it. -/
inductive Takes (id : String) : Step → Prop
  | store (content : Bytes) : Takes id (.store (.code id) content)
  | refuse : Takes id (.fail (.artifactRejected id))

theorem takes_of_key {i : Input} (h : i.key? s = some (.code id)) :
    ∃ step, i.step? s = some step ∧ Takes id step := by
  rw [Input.step?, h, Option.map_some]
  split
  · exact ⟨_, rfl, .refuse⟩
  · exact ⟨_, rfl, .store i.content⟩

theorem store_append (before after : List Step) (m : ArtifactMap) :
    store (before ++ after) m = (store before m).bind (store after) := by
  induction before generalizing m with
  | nil => rfl
  | cons step before ih =>
    cases step with
    | store key content =>
      rw [List.cons_append, store, store]
      split
      · rfl
      · exact ih _
    | report e => exact ih m
    | fail e => rfl

/-- Once a unit is stored its key is there. -/
theorem contains_of_takes {step : Step} (h : Takes id step) (hmem : step ∈ steps)
    (hstore : store steps ∅ = .ok m) : m.contains (.code id) = true := by
  obtain ⟨hunfailing, hperm⟩ := store_empty_eq_ok_iff.1 hstore
  cases h with
  | store content =>
    have hpair : (.code id, .compress (.code id) content) ∈ m.pairs :=
      hperm.mem_iff.2 (List.mem_filterMap.2 ⟨_, hmem, rfl⟩)
    exact (m.contains_iff_mem _).2 (List.mem_map_of_mem hpair)
  | refuse => exact absurd hmem (hunfailing _)

/-- **The second of two steps for one unit is not reached, or is the failure.** -/
theorem store_eq_error_of_takes {first second : Step} (hfirst : Takes id first)
    (hsecond : Takes id second) (h : [first, second].Sublist steps) :
    ∃ e, store steps ∅ = .error e ∧
      (e = .duplicateResource (.code id) ∨ e = .artifactRejected id ∨
        ∃ before after, steps = before ++ second :: after ∧ store before ∅ = .error e) := by
  obtain ⟨front, back, rfl, hmem, hback⟩ := List.cons_sublist_iff.1 h
  obtain ⟨between, after, rfl⟩ := List.append_of_mem (List.singleton_sublist.1 hback)
  rw [← List.append_assoc, store_append]
  cases hbefore : store (front ++ between) ∅ with
  | error e => exact ⟨e, rfl, .inr (.inr ⟨_, after, rfl, hbefore⟩)⟩
  | ok m =>
    have hthere := contains_of_takes hfirst (List.mem_append_left between hmem) hbefore
    rw [Except.bind]
    cases hsecond with
    | store content =>
      rw [store, if_pos hthere]
      exact ⟨_, rfl, .inl rfl⟩
    | refuse => exact ⟨_, rfl, .inr (.inl rfl)⟩

/-! ## Two names of one unit -/

variable {segs : List (List Char)}

/-- **What is handed in under a name of the unit**: with an extension, or by its id. -/
inductive Input.Spells (exts : List String) (segs : List (List Char)) : Input → Prop
  | unit {name : String} (content : Bytes) (h : Naming.Spells exts segs name.toList) :
      Spells exts segs (.unit name content)
  | dotted (content : Bytes) (h : IsBare exts segs) :
      Spells exts segs (.unit (String.ofList (unitChars segs)) content)
  | file {name : String} (content : Bytes) (h : Naming.Spells exts segs name.toList) :
      Spells exts segs (.file name content)

theorem Input.Spells.key {i : Input} (h : i.Spells s.codeExtensions segs)
    (hexts : ∀ ext ∈ s.codeExtensions, IsPlainExtension ext) (hunit : IsUnit segs) :
    i.key? s = some (.code (String.ofList (unitChars segs))) := by
  cases h with
  | unit content h => rw [Input.key?, Naming.canonicalId?_of_spells hexts hunit h, Option.map_some]
  | dotted content h =>
    rw [Input.key?, Naming.canonicalId?_of_isBare hexts hunit h, Option.map_some]
  | file content h => exact Naming.classify?_of_spells hexts hunit h

/-- What is handed in has its steps in the outlines, in the same order. -/
theorem sublist_outline {ds : List Definition} {i j : Input} {first second : Step}
    (hfirst : i.step? s = some first) (hsecond : j.step? s = some second)
    (h : [i, j].Sublist (ds.flatMap (inputs s))) :
    [first, second].Sublist (ds.flatMap (outline s)) := by
  have hsteps : (ds.flatMap (outline s)).filter Step.isOfInput =
      (ds.flatMap (inputs s)).filterMap (Input.step? s) := by
    simp only [List.filter_flatMap, steps_outline, List.filterMap_flatMap]
  have hpair := h.filterMap (Input.step? s)
  rw [← hsteps, List.filterMap_cons, hfirst, List.filterMap_cons, hsecond] at hpair
  exact hpair.trans List.filter_sublist

/-- **All names of a unit are one name.**  Whatever stands between its segments, with slashes in
front and an extension behind, it is found to be the same unit, and so is its id.  Two inputs under
names of one unit are refused together: as a key that comes up twice, by the filter, or for
something that comes before the second of them. -/
theorem extractAll_spellings (hexts : ∀ ext ∈ s.codeExtensions, IsPlainExtension ext)
    (hunit : IsUnit segs) :
    let id := String.ofList (unitChars segs)
    (∀ name, Naming.Spells s.codeExtensions segs name.toList →
      Naming.canonicalId? name s.codeExtensions = some id ∧
        Naming.classify? name s.codeExtensions = some (.code id)) ∧
    (IsBare s.codeExtensions segs → Naming.canonicalId? id s.codeExtensions = some id) ∧
    ∀ ds i j, Input.Spells s.codeExtensions segs i → Input.Spells s.codeExtensions segs j →
      [i, j].Sublist (ds.flatMap (inputs s)) →
      ∃ e, extractAll s ds = .error e ∧
        (e = .duplicateResource (.code id) ∨ e = .artifactRejected id ∨
          ∃ before step after, ds.flatMap (outline s) = before ++ step :: after ∧
            j.step? s = some step ∧ store before ∅ = .error e) := by
  intro id
  refine ⟨fun name h => ⟨?_, ?_⟩, fun h => ?_, fun ds i j hi hj hsub => ?_⟩
  · exact Naming.canonicalId?_of_spells hexts hunit h
  · exact Naming.classify?_of_spells hexts hunit h
  · exact Naming.canonicalId?_of_isBare hexts hunit h
  · obtain ⟨first, hfirst, htakes⟩ := takes_of_key (hi.key hexts hunit)
    obtain ⟨second, hsecond, htakes'⟩ := takes_of_key (hj.key hexts hunit)
    obtain ⟨e, he, hkind⟩ :=
      store_eq_error_of_takes htakes htakes' (sublist_outline hfirst hsecond hsub)
    refine ⟨e, he, hkind.imp_right (Or.imp_right ?_)⟩
    rintro ⟨before, after, hsteps, hbefore⟩
    exact ⟨before, second, after, hsteps, hsecond, hbefore⟩

/-- A unit by a path and by its id. -/
theorem extractAll_spellings_two :
    let s : ExtractorSettings := {}
    let ds : List Definition := [⟨"//a\\B.class", .code, [1]⟩, ⟨"a.B", .code, [2]⟩]
    (∀ ext ∈ s.codeExtensions, IsPlainExtension ext) ∧ IsUnit [['a'], ['B']] ∧
      IsBare s.codeExtensions [['a'], ['B']] ∧
      Naming.classify? "//a\\B.class" s.codeExtensions = some (.code "a.B") ∧
      ∃ e, extractAll s ds = .error e := by
  intro s ds
  have hexts : ∀ ext ∈ s.codeExtensions, IsPlainExtension ext := by
    refine List.forall_mem_singleton.2 ⟨by decide, fun c hc => ?_⟩
    have hplain : "class".toList.all (fun c => !Text.isBlank c) = true := by decide
    simpa using List.all_eq_true.1 hplain c hc
  have hsegment : ∀ seg ∈ [['a'], ['B']], Naming.IsSegment seg := by
    refine List.forall_mem_cons.2 ⟨?_, List.forall_mem_singleton.2 ?_⟩ <;>
      exact ⟨by decide, by decide, by decide, by decide⟩
  have hunit : IsUnit [['a'], ['B']] := by
    refine ⟨by decide, hsegment, ?_, ?_⟩ <;>
    · rintro _ ⟨⟩ _ ⟨⟩
      decide
  have hbare : IsBare s.codeExtensions [['a'], ['B']] := .inr (by decide)
  have hpath : Naming.Spells s.codeExtensions [['a'], ['B']] "//a\\B.class".toList :=
    .intro 2 (.cons ['a'] (.inr (.inr rfl)) (.last ['B'])) List.mem_cons_self
  obtain ⟨hnames, -, htwo⟩ := extractAll_spellings hexts hunit
  obtain ⟨e, he, -⟩ := htwo ds _ _ (.unit [1] hpath) (.dotted [2] hbare) (.refl _)
  exact ⟨hexts, hunit, hbare, (hnames _ hpath).2, e, he⟩

/-! ## A unit again, by its id -/

/-- The key of a unit is the id of some name. -/
theorem Input.exists_name {i : Input} (h : i.key? s = some (.code id)) :
    ∃ name, Naming.canonicalId? name s.codeExtensions = some id := by
  cases i with
  | unit name content =>
    obtain ⟨id', hid', hkey⟩ := Option.map_eq_some_iff.1 h
    cases hkey
    exact ⟨name, hid'⟩
  | file name content =>
    rw [Input.key?, Naming.classify?] at h
    split at h
    · cases h
    · split at h
      · obtain ⟨chars, hchars, hkey⟩ := Option.map_eq_some_iff.1 h
        cases hkey
        refine ⟨String.ofList (Naming.dropSlashes name.toList), ?_⟩
        rw [Naming.canonicalId?, String.toList_ofList, hchars, Option.map_some]
      · cases h

/-- An entry under the key of a unit is what storing some content there gives; the id is the id of
some name, and allowed. -/
theorem entry_of_extractAll {ds : List Definition} {e : Entry}
    (h : extractAll s ds = .ok m) (he : m.get? (.code id) = some e) :
    (∃ name, Naming.canonicalId? name s.codeExtensions = some id) ∧
      s.filter.isAllowed id = true ∧ ∃ content, e = .compress (.code id) content := by
  obtain ⟨-, hperm⟩ := store_empty_eq_ok_iff.1 h
  have hmem := hperm.mem_iff.1 ((m.get?_eq_some_iff _ e).1 he)
  have hcontent := compressed_of_stored hmem
  simp only [stored_flatMap, stored_outline, ← List.filterMap_flatMap] at hmem
  obtain ⟨i, -, hi⟩ := List.mem_filterMap.1 hmem
  refine ⟨Input.exists_name (Input.key_of_stored hi), ?_, hcontent⟩
  cases Input.isKey_of_stored hi with
  | code hdotted hallowed => exact hallowed

/-- A unit whose id stands for itself is stored under it. -/
theorem extract_unit (hid : Naming.canonicalId? id s.codeExtensions = some id)
    (hallowed : s.filter.isAllowed id = true) (content : Bytes) :
    extract s ⟨id, .code, content⟩ =
      .ok ((∅ : ArtifactMap).insert (.code id) (.compress (.code id) content)) := by
  have hsteps : outline s ⟨id, .code, content⟩ = [.store (.code id) content] := by
    simp [outline, unitOutline, hid, hallowed]
  rw [extract, hsteps]
  rfl

/-- Any other is stored elsewhere, or not at all. -/
theorem get?_extract_unit (hid : Naming.canonicalId? id s.codeExtensions ≠ some id)
    {content : Bytes} (h : extract s ⟨id, .code, content⟩ = .ok m) : m.get? (.code id) = none := by
  refine Option.eq_none_iff_forall_ne_some.2 fun e he => hid ?_
  obtain ⟨-, hperm⟩ := extract_eq_ok_iff.1 h
  have hmem := hperm.mem_iff.1 ((m.get?_eq_some_iff _ e).1 he)
  rw [stored_outline] at hmem
  obtain ⟨i, hi, hstored⟩ := List.mem_filterMap.1 hmem
  obtain rfl := List.mem_singleton.1 hi
  obtain ⟨id', hid', hkey⟩ := Option.map_eq_some_iff.1 (Input.key_of_stored hstored)
  cases hkey
  exact hid'

/-- **An id stands for itself unless something is taken off it.**  It is the id of itself if and
only if it neither begins nor ends with a blank and has no extension at the end, and else of
something shorter, or nothing.  So a unit of an extraction that is handed in again by its id is
stored as it was, if its id is such a one, and not under that key, if it is not. -/
theorem extract_again (s : ExtractorSettings) :
    (∀ exts name id, Naming.canonicalId? name exts = some id →
      (Naming.canonicalId? id exts = some id ↔ IsFixed exts id.toList) ∧
        ∀ id', Naming.canonicalId? id exts = some id' → id' = id ∨ id'.length < id.length) ∧
    ∀ ds m id e, extractAll s ds = .ok m → m.get? (.code id) = some e →
      ∃ content, e.decompress = .ok content ∧
        (IsFixed s.codeExtensions id.toList → extract s ⟨id, .code, content⟩ =
          .ok ((∅ : ArtifactMap).insert (.code id) e)) ∧
        (¬ IsFixed s.codeExtensions id.toList → ∀ m', extract s ⟨id, .code, content⟩ = .ok m' →
          m'.get? (.code id) = none) := by
  refine ⟨fun exts name id h => Naming.canonicalId?_id h, fun ds m id e h he => ?_⟩
  obtain ⟨⟨name, hname⟩, hallowed, content, rfl⟩ := entry_of_extractAll h he
  have hself := (Naming.canonicalId?_id hname).1
  refine ⟨content, Entry.decompress_compress _ content, fun hfixed => ?_, fun hfixed => ?_⟩
  · exact extract_unit (hself.2 hfixed) hallowed content
  · exact fun m' hm' => get?_extract_unit (mt hself.1 hfixed) hm'

/-- A unit named `class`, in a package. -/
theorem extract_again_class :
    let s : ExtractorSettings := {}
    let d : Definition := ⟨"A.class.class", .code, [1]⟩
    s.validate = .ok () ∧
      Naming.canonicalId? "A.class.class" s.codeExtensions = some "A.class" ∧
      Naming.canonicalId? "A.class" s.codeExtensions = some "A" ∧
      (extractAll s [d]).map Table.keys = .ok [.code "A.class"] ∧
      (extract s ⟨"A.class", .code, d.payload⟩).map Table.keys = .ok [.code "A"] := by
  decide +kernel

end Extraction

end Tenancy
