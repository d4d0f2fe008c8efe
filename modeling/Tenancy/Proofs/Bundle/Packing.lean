import Mathlib.Data.List.Sort
import Tenancy.Proofs.Bundle.Inventory
import Tenancy.Proofs.Bundle.Walking

/-!
# Proofs/Bundle/Packing — a directory comes out of its bundle

    files that are kept  ——pack——  archive  ——extract——  pairs of the map,   one for one

The files are those below the root of which no name is ignored, the root's own included; they are
listed and packed by their names in the bundle.  An archive takes a name that ends in a backslash
for the name of a directory, so a file of such a name is packed but does not come out
(`Walk.extract_pack`).
-/

namespace Tenancy

/-! ## Taking files out of an archive -/

namespace Extraction

variable {x : ExtractorSettings} {id : String} {payload : Bytes} {m : ArtifactMap}
  {es : List (Except Zip.Error Zip.Entry)} {i : Input} {is : List Input}

/-- **The inputs can be taken in together**: every name stands for a key, which the filter allows,
and no two for the same one. -/
structure Usable (x : ExtractorSettings) (is : List Input) : Prop where
  named : ∀ i ∈ is, ∃ key, i.key? x = some key ∧
    (key.kind = .code → x.filter.isAllowed key.id = true)
  apart : (is.map (Input.key? x)).Nodup

theorem exists_stored_iff : (∃ p, i.stored? x = some p) ↔ ∃ key, i.key? x = some key ∧
    (key.kind = .code → x.filter.isAllowed key.id = true) := by
  rw [Input.stored?]
  cases i.key? x with
  | none => simp
  | some key =>
    simp only [Option.bind_some, Option.some.injEq, exists_eq_left']
    by_cases hcode : key.kind = .code <;> by_cases hallowed : x.filter.isAllowed key.id = true <;>
      simp [hcode, hallowed]

instance (x : ExtractorSettings) (is : List Input) : Decidable (Usable x is) :=
  decidable_of_iff ((∀ i ∈ is, (i.stored? x).isSome) ∧ (is.map (Input.key? x)).Nodup)
    ⟨fun h => ⟨fun i hi => exists_stored_iff.1 (Option.isSome_iff_exists.1 (h.1 i hi)), h.2⟩,
      fun h => ⟨fun i hi => Option.isSome_iff_exists.2 (exists_stored_iff.2 (h.named i hi)),
        h.apart⟩⟩

theorem Holds.filesOfEntry_eq (h : Holds es is) : es.flatMap filesOfEntry = is := by
  induction h with
  | nil => rfl
  | directory _ ih => exact ih
  | file _ ih => rw [List.flatMap_cons, ih]; rfl

theorem Holds.inputs_eq (h : Holds es is) (hread : Zip.read payload = .ok es) :
    inputs x ⟨id, .archive, payload⟩ = is := by
  rw [inputs, hread]
  exact h.filesOfEntry_eq

theorem Holds.unfailing (h : Holds es is) (hstored : AllStored x is) :
    Unfailing (es.flatMap (entryOutline x id)) := by
  induction h with
  | nil => exact nofun
  | directory _ ih => exact ih hstored
  | @file name content es is _ ih =>
    obtain ⟨hfile, hstored⟩ := List.forall_mem_cons.1 hstored
    rw [unfailing_flatMap, List.forall_mem_cons, ← unfailing_flatMap]
    refine ⟨?_, ih hstored⟩
    obtain ⟨key, hkey, hallowed⟩ := exists_stored_iff.1 hfile
    rw [Input.key?] at hkey
    simp only [entryOutline, fileOutline, hkey, Bool.false_eq_true, if_false]
    split
    · rename_i hrefused
      simp only [Bool.and_eq_true, decide_eq_true_eq, Bool.not_eq_true'] at hrefused
      rw [hallowed hrefused.1] at hrefused
      cases hrefused.2
    · exact fun e he => by cases List.mem_singleton.1 he

theorem map_key_of_keeps {ps : List (ArtifactKey × Entry)} (h : List.Forall₂ (Keeps x) is ps) :
    is.map (Input.key? x) = (ps.map Prod.fst).map some := by
  induction h with
  | nil => rfl
  | cons hp _ ih => rw [List.map_cons, List.map_cons, List.map_cons, hp.key, ih]

/-- **What comes out of an archive is one pair for each of its files.** -/
theorem kept_of_extract (hread : Zip.read payload = .ok es) (hholds : Holds es is)
    (h : extract x ⟨id, .archive, payload⟩ = .ok m) :
    ∃ ps, List.Forall₂ (Keeps x) is ps ∧ m.pairs.Perm ps := by
  obtain ⟨hunfailing, hperm⟩ := extract_eq_ok_iff.1 h
  have hstored := (handsIn_of_unfailing hunfailing).2
  rw [stored_outline, hholds.inputs_eq hread] at hperm
  rw [hholds.inputs_eq hread] at hstored
  exact ⟨_, (forall₂_filterMap hstored).imp fun _ _ => Input.keeps_of_stored, hperm⟩

/-- **An archive can be taken apart if and only if its files can be taken in together.** -/
theorem extract_iff_usable (hread : Zip.read payload = .ok es) (hholds : Holds es is) :
    (∃ m, extract x ⟨id, .archive, payload⟩ = .ok m) ↔ Usable x is := by
  constructor
  · rintro ⟨m, h⟩
    obtain ⟨ps, hkeeps, hperm⟩ := kept_of_extract hread hholds h
    have hstored := (handsIn_of_unfailing (extract_eq_ok_iff.1 h).1).2
    rw [hholds.inputs_eq hread] at hstored
    refine ⟨fun i hi => exists_stored_iff.1 (hstored i hi), ?_⟩
    rw [map_key_of_keeps hkeeps]
    exact ((hperm.map Prod.fst).nodup m.nodup_keys).map (Option.some_injective _)
  · rintro ⟨hnamed, hapart⟩
    have hstored : AllStored x is := fun i hi => exists_stored_iff.2 (hnamed i hi)
    have hkeeps : List.Forall₂ (Keeps x) is (is.filterMap (Input.stored? x)) :=
      (forall₂_filterMap hstored).imp fun _ _ => Input.keeps_of_stored
    rw [map_key_of_keeps hkeeps] at hapart
    obtain ⟨m, hm⟩ := Table.exists_of_nodup (hapart.of_map _)
    refine ⟨m, extract_eq_ok_iff.2 ⟨?_, ?_⟩⟩
    · intro e he
      rw [outline, hread, archiveOutline] at he
      rcases List.mem_append.1 he with he | he
      · exact hholds.unfailing hstored e he
      · cases List.mem_singleton.1 he
    · rwa [stored_outline, hholds.inputs_eq hread]

end Extraction

/-- **The archive of the files reads as them**, those with the names of directories as
directories. -/
def Zip.ReadsBack (cs : List (String × Bytes)) : Prop :=
  Zip.read (Zip.write cs) = .ok (cs.map fun c => .ok ⟨c.1, Zip.isDirectoryName c.1, .ok c.2⟩)

instance : DecidableEq Zip.Entry := fun ⟨n, d, c⟩ ⟨n', d', c'⟩ =>
  decidable_of_iff (n = n' ∧ d = d' ∧ c = c') (by rw [Zip.Entry.mk.injEq])

instance (cs : List (String × Bytes)) : Decidable (Zip.ReadsBack cs) :=
  inferInstanceAs (Decidable (_ = _))

namespace Walk

open Extraction (Input Keeps Usable Holds)
open Files (IsName Node Tree Way isLongPath parts)

variable {root : String} {names : List String} {t : Tree} {s : WalkSettings} {here : Way}

/-! ## Names in the bundle -/

theorem parts_bundleName (h : ∀ name ∈ names, IsName name) : parts (bundleName names) = names := by
  induction names with
  | nil => rfl
  | cons name rest ih =>
    obtain ⟨hname, hrest⟩ := List.forall_mem_cons.1 h
    cases rest with
    | nil => rw [bundleName, String.intercalate_singleton, hname.parts_eq]
    | cons name' rest =>
      have hjoined : (bundleName (name :: name' :: rest)).toList =
          name.toList ++ '/' :: (bundleName (name' :: rest)).toList := by
        rw [bundleName, String.intercalate_cons_cons, String.toList_append, String.toList_append,
          List.append_assoc]
        rfl
      rw [Files.parts_append_slash hjoined, hname.parts_eq, ih hrest, List.singleton_append]

/-- Different files have different names in the bundle. -/
theorem Kept.names_eq (ht : t.IsPlain) {names names' : List String} {node node' : Node}
    (h : Kept t s root here names node) (h' : Kept t s root here names' node')
    (heq : bundleName names = bundleName names') : names = names' := by
  have hnames := fun n hn => ht.isName h.at_way n (List.mem_append_right _ hn)
  have hnames' := fun n hn => ht.isName h'.at_way n (List.mem_append_right _ hn)
  rw [← parts_bundleName hnames, heq, parts_bundleName hnames']

/-! ## The files -/

/-- The order of files by their names in the bundle. -/
def NamedBefore {α : Type} (f g : List String × α) : Prop :=
  bundleName f.1 ≤ bundleName g.1

instance {α : Type} : DecidableRel (NamedBefore (α := α)) :=
  fun f g => inferInstanceAs (Decidable (bundleName f.1 ≤ bundleName g.1))

instance {α : Type} : Std.Total (NamedBefore (α := α)) :=
  ⟨fun f g => String.le_total (bundleName f.1) (bundleName g.1)⟩

instance {α : Type} : IsTrans (List String × α) NamedBefore :=
  ⟨fun _ _ _ h h' => String.le_trans h h'⟩

/-- What is kept of a node: the names from the root down to it, and its content. -/
def kept? (s : WalkSettings) (root : String) (here : Way) (n : Way × Node) :
    Option (List String × Bytes) :=
  match n.2 with
  | .file content =>
    if here <+: n.1 ∧ ∀ name ∈ rootName root :: n.1.drop here.length, name ∉ s.ignore then
      some (n.1.drop here.length, content)
    else none
  | _ => none

/-- **The files that are kept**, by their names in the bundle, with their contents. -/
def keptFiles (t : Tree) (s : WalkSettings) (root : String) (here : Way) :
    List (List String × Bytes) :=
  (t.nodes.filterMap (kept? s root here)).insertionSort NamedBefore

theorem kept?_eq_some_iff {n : Way × Node} {content : Bytes} :
    kept? s root here n = some (names, content) ↔
      n = (here ++ names, .file content) ∧ ∀ name ∈ rootName root :: names, name ∉ s.ignore := by
  constructor
  · intro h
    obtain ⟨w, node⟩ := n
    cases node with
    | link target => cases h
    | directory => cases h
    | file content' =>
      simp only [kept?] at h
      split at h
      · rename_i hkept
        obtain ⟨⟨rest, rfl⟩, hnames⟩ := hkept
        rw [List.drop_left] at h hnames
        cases h
        exact ⟨rfl, hnames⟩
      · cases h
  · rintro ⟨rfl, hnames⟩
    rw [kept?, List.drop_left]
    exact if_pos ⟨List.prefix_append _ _, hnames⟩

theorem mem_keptFiles (ht : t.IsPlain) {content : Bytes} :
    (names, content) ∈ keptFiles t s root here ↔ Kept t s root here names (.file content) := by
  rw [keptFiles, List.mem_insertionSort, List.mem_filterMap]
  constructor
  · rintro ⟨n, hn, hkept⟩
    obtain ⟨rfl, hnames⟩ := kept?_eq_some_iff.1 hkept
    exact ⟨ht.at?_of_mem hn, hnames⟩
  · rintro ⟨hat, hnames⟩
    have hne : here ++ names ≠ [] := by
      intro h
      rw [h] at hat
      cases hat
    exact ⟨_, Tree.mem_nodes_of_at? hat hne, kept?_eq_some_iff.2 ⟨rfl, hnames⟩⟩

/-- No two files that are kept have one name. -/
theorem sorted_keptFiles (ht : t.IsPlain) (s : WalkSettings) (root : String) (here : Way) :
    (keptFiles t s root here).Pairwise fun k k' => bundleName k.1 < bundleName k'.1 := by
  have hnodup : (keptFiles t s root here).Nodup := by
    refine (List.perm_insertionSort _ _).nodup_iff.2 ?_
    refine List.Nodup.filterMap (fun n n' k hk hk' => ?_) (ht.distinct.of_map _)
    rw [(kept?_eq_some_iff.1 hk).1, (kept?_eq_some_iff.1 hk').1]
  refine ((List.pairwise_insertionSort NamedBefore _).and hnodup).imp_of_mem ?_
  rintro ⟨names, content⟩ ⟨names', content'⟩ hk hk' ⟨hle, hne⟩
  refine Std.lt_of_le_of_ne hle fun heq => hne ?_
  have hkept := (mem_keptFiles ht).1 hk
  have hkept' := (mem_keptFiles ht).1 hk'
  obtain rfl := hkept.names_eq ht hkept' heq
  cases hkept.at_way.symm.trans hkept'.at_way
  rfl

/-- What is sorted by name in the end, whatever the order before. -/
theorem mergeSort_eq {l l' : List (String × String)} (hperm : l.Perm l')
    (hsorted : l'.Pairwise fun a b => a.1 < b.1) :
    (l.mergeSort fun a b => a.1 ≤ b.1) = l' := by
  have hnames : (l'.map Prod.fst).Nodup := List.pairwise_map.2 (hsorted.imp Std.ne_of_lt)
  have hsort := (List.mergeSort_perm l fun a b => decide (a.1 ≤ b.1)).trans hperm
  have hle : (l.mergeSort fun a b => a.1 ≤ b.1).Pairwise fun a b => decide (a.1 ≤ b.1) = true := by
    refine List.pairwise_mergeSort (fun a b c hab hbc => ?_) (fun a b => ?_) l
    · exact decide_eq_true (String.le_trans (of_decide_eq_true hab) (of_decide_eq_true hbc))
    · simpa using String.le_total a.1 b.1
  refine hsort.eq_of_pairwise (fun a b ha hb hab hba => ?_) hle
    (hsorted.imp fun h => decide_eq_true (Std.le_of_lt h))
  exact List.inj_on_of_nodup_map hnames (hsort.mem_iff.1 ha) hb
    (String.le_antisymm (of_decide_eq_true hab) (of_decide_eq_true hba))

theorem sorted_listed (ht : t.IsPlain) (s : WalkSettings) (root : String) (here : Way) :
    ((keptFiles t s root here).map fun k => (bundleName k.1, place root k.1)).Pairwise
      fun a b => a.1 < b.1 :=
  List.pairwise_map.2 (sorted_keptFiles ht s root here)

/-- What a walk lists are the files that are kept, in some order. -/
theorem perm_listed (ht : t.IsPlain) {found : List Found} (nodup : found.Nodup)
    (mem : ∀ f, f ∈ found ↔ ∃ names content, Kept t s root here names (.file content) ∧
      f = (names, place root names)) :
    (found.map fun f => (bundleName f.1, f.2)).Perm
      ((keptFiles t s root here).map fun k => (bundleName k.1, place root k.1)) := by
  have hnodup : (found.map fun f => (bundleName f.1, f.2)).Nodup := by
    refine nodup.map_on fun f hf f' hf' heq => ?_
    obtain ⟨names, _, hkept, rfl⟩ := (mem f).1 hf
    obtain ⟨names', _, hkept', rfl⟩ := (mem f').1 hf'
    rw [hkept.names_eq ht hkept' (Prod.ext_iff.1 heq).1]
  refine (List.perm_ext_iff_of_nodup hnodup ?_).2 fun p => ?_
  · exact (sorted_listed ht s root here).imp fun hlt he => Std.ne_of_lt hlt (congrArg Prod.fst he)
  · simp only [List.mem_map]
    constructor
    · rintro ⟨f, hf, rfl⟩
      obtain ⟨names, content, hkept, rfl⟩ := (mem f).1 hf
      exact ⟨_, (mem_keptFiles ht).2 hkept, rfl⟩
    · rintro ⟨⟨names, content⟩, hk, rfl⟩
      exact ⟨_, (mem _).2 ⟨names, content, (mem_keptFiles ht).1 hk, rfl⟩, rfl⟩

/-- **The files of a directory are those that are kept**, by their names in the bundle; listing them
fails only where a directory that is kept has too long a path. -/
theorem files_eq_ok_iff (ht : t.IsPlain) (hroot : Leads t root here)
    {fs : List (String × String)} : files t s root = .ok fs ↔
      (∀ names, Kept t s root here names .directory → isLongPath (place root names) = false) ∧
        fs = (keptFiles t s root here).map fun k => (bundleName k.1, place root k.1) := by
  have hwalked := walked_found ht s hroot
  rw [files]
  generalize found t s root = x at hwalked
  cases hwalked with
  | @long names _ hkept hlong =>
    refine iff_of_false nofun fun h => ?_
    rw [h.1 names hkept] at hlong
    cases hlong
  | listed nodup mem short =>
    simp only [true_and] at mem
    dsimp only
    rw [mergeSort_eq (perm_listed ht nodup mem) (sorted_listed ht s root here), Except.ok.injEq]
    constructor
    · rintro rfl
      exact ⟨fun names => short names trivial, rfl⟩
    · rintro ⟨-, rfl⟩
      rfl

/-! ## Packing -/

/-- What is written into the bundle: the files that are kept, under their names in it. -/
def bundled (t : Tree) (s : WalkSettings) (root : String) (here : Way) : List (String × Bytes) :=
  (keptFiles t s root here).map fun k => (bundleName k.1, k.2)

theorem readAll_eq_ok_iff (ht : t.IsPlain) (hroot : Leads t root here)
    {ks : List (List String × Bytes)} (hks : ∀ k ∈ ks, t.at? (here ++ k.1) = some (.file k.2))
    {cs : List (String × Bytes)} :
    readAll t (ks.map fun k => (bundleName k.1, place root k.1)) = .ok cs ↔
      (∀ k ∈ ks, isLongPath (place root k.1) = false) ∧
        cs = ks.map fun k => (bundleName k.1, k.2) := by
  induction ks generalizing cs with
  | nil =>
    rw [List.map_nil, readAll, List.map_nil, Except.ok.injEq]
    exact ⟨fun h => ⟨nofun, h.symm⟩, fun h => h.2.symm⟩
  | cons k ks ih =>
    obtain ⟨hk, hks⟩ := List.forall_mem_cons.1 hks
    rw [List.map_cons, readAll, read_place ht hroot hk, List.forall_mem_cons]
    cases hlong : isLongPath (place root k.1) with
    | true => exact iff_of_false nofun fun h => by cases h.1.1
    | false =>
      simp only [Bool.false_eq_true, if_false, true_and]
      cases hrest : readAll t (ks.map fun k => (bundleName k.1, place root k.1)) with
      | error e =>
        refine iff_of_false nofun fun h => ?_
        rw [(ih hks).2 ⟨h.1, rfl⟩] at hrest
        cases hrest
      | ok others =>
        obtain ⟨hshort, rfl⟩ := (ih hks).1 hrest
        rw [Except.map, Except.ok.injEq]
        exact ⟨fun h => ⟨hshort, h.symm⟩, fun h => h.2.symm⟩

/-- **A directory is packed into the files that are kept**, unless a path is too long. -/
theorem pack_eq_ok_iff (ht : t.IsPlain) (hroot : Leads t root here) (id : String) {d : Definition} :
    pack t s root id = .ok d ↔
      (∀ names node, Kept t s root here names node → isLongPath (place root names) = false) ∧
        d = ⟨id, .archive, Zip.write (bundled t s root here)⟩ := by
  have hkept : ∀ k ∈ keptFiles t s root here, t.at? (here ++ k.1) = some (.file k.2) :=
    fun k hk => ((mem_keptFiles ht).1 hk).at_way
  constructor
  · intro h
    rw [pack] at h
    cases hfs : files t s root with
    | error e => rw [hfs] at h; cases h
    | ok fs =>
      obtain ⟨hdirectories, rfl⟩ := (files_eq_ok_iff ht hroot).1 hfs
      cases hcs : readAll t ((keptFiles t s root here).map fun k =>
          (bundleName k.1, place root k.1)) with
      | error e => simp only [hfs, hcs, bind, Except.bind] at h; cases h
      | ok cs =>
        obtain ⟨hshort, rfl⟩ := (readAll_eq_ok_iff ht hroot hkept).1 hcs
        simp only [hfs, hcs, bind, Except.bind, Except.ok.injEq] at h
        refine ⟨fun names node hnode => ?_, h.symm⟩
        cases node with
        | link target => exact absurd hnode.at_way (ht.not_link target)
        | directory => exact hdirectories names hnode
        | file content => exact hshort _ ((mem_keptFiles ht).2 hnode)
  · rintro ⟨hshort, rfl⟩
    have hfs := (files_eq_ok_iff ht hroot).2 ⟨fun names => hshort names .directory, rfl⟩
    have hcs := (readAll_eq_ok_iff ht hroot hkept).2
      ⟨fun k hk => hshort k.1 _ ((mem_keptFiles ht).1 hk), rfl⟩
    simp only [pack, hfs, hcs, bind, Except.bind, bundled]

theorem pack_of_short (ht : t.IsPlain) (hroot : Leads t root here) (s : WalkSettings) (id : String)
    (hshort : ∀ n ∈ t.nodes, here <+: n.1 →
      isLongPath (place root (n.1.drop here.length)) = false) :
    pack t s root id = .ok ⟨id, .archive, Zip.write (bundled t s root here)⟩ := by
  refine (pack_eq_ok_iff ht hroot id).2 ⟨fun names node hkept => ?_, rfl⟩
  by_cases hnames : names = []
  · obtain ⟨rootNode, hresolve⟩ := hroot.exists_node
    rw [hnames, place_nil]
    exact (Files.checkPath_eq_ok (ht.resolve_eq_ok hresolve).1).2.2
  · have hmem := Tree.mem_nodes_of_at? hkept.at_way (List.append_ne_nil_of_right_ne_nil _ hnames)
    simpa using hshort _ hmem (List.prefix_append _ _)

/-! ## Out of the bundle -/

/-- What an archive of files hands in: those whose names are no names of directories. -/
def handedIn (cs : List (String × Bytes)) : List Input :=
  (cs.filter fun c => !Zip.isDirectoryName c.1).map fun c => .file c.1 c.2

theorem holds_handedIn (cs : List (String × Bytes)) :
    Holds (cs.map fun c => .ok ⟨c.1, Zip.isDirectoryName c.1, .ok c.2⟩) (handedIn cs) := by
  induction cs with
  | nil => exact .nil
  | cons c cs ih =>
    rw [List.map_cons, handedIn, List.filter_cons]
    cases Zip.isDirectoryName c.1 with
    | true => exact .directory ih
    | false => exact .file ih

/-- **The files of a directory come out of its bundle**, apart from those whose names an archive
takes for names of directories.  In a tree without links, from any root in it (a path relative to
the tree),

* walking lists the files that are kept, each once, by their names in the bundle, and packing writes
  them in that order; both fail only where a path is too long to be opened;
* the bundle can be taken apart if and only if the files that it hands in have names that are
  usable, allowed and apart, and then the map has one pair for each of them, from which it is read
  back as it is in the tree, and no others. -/
theorem extract_pack (ht : t.IsPlain) (hroot : Leads t root here) (s : WalkSettings)
    (x : ExtractorSettings) (id : String)
    (hzip : Zip.ReadsBack (bundled t s root here)) :
    (∀ names content, (names, content) ∈ keptFiles t s root here ↔
      Kept t s root here names (.file content)) ∧
    ((keptFiles t s root here).Pairwise fun k k' => bundleName k.1 < bundleName k'.1) ∧
    (∀ fs, files t s root = .ok fs ↔
      (∀ names, Kept t s root here names .directory → isLongPath (place root names) = false) ∧
        fs = (keptFiles t s root here).map fun k => (bundleName k.1, place root k.1)) ∧
    (∀ d, pack t s root id = .ok d ↔
      (∀ names node, Kept t s root here names node → isLongPath (place root names) = false) ∧
        d = ⟨id, .archive, Zip.write (bundled t s root here)⟩) ∧
    ∀ d, pack t s root id = .ok d →
      ((∃ m, extract x d = .ok m) ↔ Usable x (handedIn (bundled t s root here))) ∧
      ∀ m, extract x d = .ok m → ∃ ps,
        List.Forall₂ (Keeps x) (handedIn (bundled t s root here)) ps ∧
          m.pairs.Perm ps := by
  have hholds := holds_handedIn (bundled t s root here)
  refine ⟨fun names content => mem_keptFiles ht, sorted_keptFiles ht s root here,
    fun fs => files_eq_ok_iff ht hroot, fun d => pack_eq_ok_iff ht hroot id, fun d hd => ?_⟩
  obtain ⟨-, rfl⟩ := (pack_eq_ok_iff ht hroot id).1 hd
  exact ⟨Extraction.extract_iff_usable hzip hholds,
    fun m hm => Extraction.kept_of_extract hzip hholds hm⟩

/-- A unit, a file in a directory, and a directory that is passed over. -/
def smallTree : Tree :=
  ⟨[(["src"], .directory), (["src", "a.txt"], .file [1]), (["B.class"], .file []),
    ([".git"], .directory), ([".git", "config"], .file [2])]⟩

theorem extract_pack_small :
    let cs : List (String × Bytes) := [("B.class", []), ("src/a.txt", [1])]
    pack smallTree {} "." "small" = .ok ⟨"small", .archive, Zip.write cs⟩ ∧
      ∃ m, extract {} ⟨"small", .archive, Zip.write cs⟩ = .ok m ∧
        ∃ ps, List.Forall₂ (Keeps {}) [.file "B.class" [], .file "src/a.txt" [1]] ps ∧
          m.pairs.Perm ps := by
  intro cs
  have ht : smallTree.IsPlain := by decide +kernel
  have hroot : Leads smallTree "." [] := ⟨by decide, .directory, by decide +kernel⟩
  have hcs : bundled smallTree {} "." [] = cs := by decide +kernel
  have hpack := pack_of_short ht hroot {} "small" (by decide +kernel)
  have hzip : Zip.ReadsBack (bundled smallTree {} "." []) := by
    rw [hcs]
    decide +kernel
  obtain ⟨-, -, -, -, hextract⟩ := extract_pack ht hroot {} {} "small" hzip
  rw [hcs] at hpack hextract
  have hfiles : handedIn cs = [.file "B.class" [], .file "src/a.txt" [1]] := rfl
  obtain ⟨husable, hkept⟩ := hextract _ hpack
  rw [hfiles] at husable hkept
  obtain ⟨m, hm⟩ := husable.2 (by decide +kernel)
  exact ⟨hpack, m, hm, hkept m hm⟩

/-- A file whose name ends in a backslash, and one below a directory that is passed over. -/
def lossyTree : Tree :=
  ⟨[(["a\\"], .file [1]), ([".git"], .directory), ([".git", "b"], .file [2])]⟩

/-- The first is lost from the top, where it is kept; the second is lost from the directory itself,
none of the names below which is ignored. -/
theorem extract_pack_lost :
    (lossyTree.IsPlain ∧ Leads lossyTree "." [] ∧ Leads lossyTree ".git" [".git"]) ∧
    (lossyTree.at? ["a\\"] = some (.file [1]) ∧ "a\\" ∉ ({} : WalkSettings).ignore ∧
      ∃ d m, pack lossyTree {} "." "top" = .ok d ∧ extract {} d = .ok m ∧ m.keys = []) ∧
    (lossyTree.at? [".git", "b"] = some (.file [2]) ∧ "b" ∉ ({} : WalkSettings).ignore ∧
      ∃ d m, pack lossyTree {} ".git" "git" = .ok d ∧ extract {} d = .ok m ∧ m.keys = []) := by
  have ht : lossyTree.IsPlain := by decide +kernel
  have htop : Leads lossyTree "." [] := ⟨by decide, .directory, by decide +kernel⟩
  have hgit : Leads lossyTree ".git" [".git"] := ⟨by decide, .directory, by decide +kernel⟩
  have hempty {d : Definition} (h : (extract {} d).map Table.keys = .ok []) :
      ∃ m, extract {} d = .ok m ∧ m.keys = [] := by
    cases hm : extract {} d with
    | error e => rw [hm] at h; cases h
    | ok m =>
      rw [hm] at h
      exact ⟨m, rfl, Except.ok.inj h⟩
  refine ⟨⟨ht, htop, hgit⟩, ⟨by decide +kernel, by decide +kernel, ?_⟩,
    by decide +kernel, by decide +kernel, ?_⟩
  · obtain ⟨m, hm, hkeys⟩ := hempty
      (d := ⟨"top", .archive, Zip.write (bundled lossyTree {} "." [])⟩) (by decide +kernel)
    exact ⟨_, m, pack_of_short ht htop {} "top" (by decide +kernel), hm, hkeys⟩
  · obtain ⟨m, hm, hkeys⟩ := hempty
      (d := ⟨"git", .archive, Zip.write (bundled lossyTree {} ".git" [".git"])⟩) (by decide +kernel)
    exact ⟨_, m, pack_of_short ht hgit {} "git" (by decide +kernel), hm, hkeys⟩

end Walk

end Tenancy
