import Tenancy.Proofs.Artifact.Naming
import Tenancy.Proofs.Text.Blank

/-!
# Proofs/Artifact/Spelling — the names of one code unit

    /…/ a ∘ b ∘ … ∘ z .ext  ⟶  a.b.….z        each ∘ one of `.`, `/` and `\`

A unit is named by the segments of its path, with any separators between them, slashes in front and
an extension at the end; all its names have one id (`Naming.canonicalChars?_of_spells`).  An id is a
name too.  It stands for itself if and only if it is trimmed and ends in no extension, and else for
a shorter id or none (`Naming.canonicalChars?_id`).
-/

namespace Tenancy.Naming

open Text (Trimmed)

variable {exts : List String} {segs : List (List Char)}

/-! ## Names with an extension -/

/-- An extension without dots and blanks. -/
structure IsPlainExtension (ext : String) : Prop where
  noDot : '.' ∉ ext.toList
  noBlank : ∀ c ∈ ext.toList, Text.isBlank c = false

/-- Not empty, and without dots and separators. -/
structure IsSegment (seg : List Char) : Prop where
  nonempty : seg ≠ []
  noDot : '.' ∉ seg
  noSlash : '/' ∉ seg
  noBackslash : '\\' ∉ seg

/-- **The segments of a code unit.**  Blanks may be inside, but not at the ends. -/
structure IsUnit (segs : List (List Char)) : Prop where
  nonempty : segs ≠ []
  segment : ∀ seg ∈ segs, IsSegment seg
  head : ∀ seg ∈ segs.head?, ∀ c ∈ seg.head?, Text.isBlank c = false
  last : ∀ seg ∈ segs.getLast?, ∀ c ∈ seg.getLast?, Text.isBlank c = false

def IsSeparator (c : Char) : Prop :=
  c = '.' ∨ c = '/' ∨ c = '\\'

/-- Segments with a separator of any kind between two of them. -/
inductive Joins : List (List Char) → List Char → Prop
  | last (seg : List Char) : Joins [seg] seg
  | cons (seg : List Char) {sep : Char} {segs : List (List Char)} {path : List Char}
      (hsep : IsSeparator sep) (h : Joins segs path) : Joins (seg :: segs) (seg ++ sep :: path)

/-- **A name of a unit with an extension.** -/
inductive Spells (exts : List String) (segs : List (List Char)) : List Char → Prop
  | intro (slashes : Nat) {path : List Char} {ext : String} (hpath : Joins segs path)
      (hext : ext ∈ exts) :
      Spells exts segs (List.replicate slashes '/' ++ (path ++ '.' :: ext.toList))

/-- The id of a unit. -/
def unitChars (segs : List (List Char)) : List Char :=
  ['.'].intercalate segs

/-- The last segment is no extension, or it is the only one. -/
def IsBare (exts : List String) (segs : List (List Char)) : Prop :=
  segs.length = 1 ∨ ∀ seg ∈ segs.getLast?, String.ofList seg ∉ exts

/-- **An id of which nothing is taken off.** -/
structure IsFixed (exts : List String) (id : List Char) : Prop where
  trimmed : Trimmed id
  plain : ∀ ext ∈ exts, ¬ ('.' :: ext.toList) <:+ id

/-! ## Separators -/

theorem dotted_append (cs cs' : List Char) : dotted (cs ++ cs') = dotted cs ++ dotted cs' :=
  List.map_append

theorem dotted_separator {c : Char} (h : IsSeparator c) : dotted [c] = ['.'] := by
  rcases h with rfl | rfl | rfl <;> rfl

theorem dotted_eq_self {cs : List Char} (hslash : '/' ∉ cs) (hback : '\\' ∉ cs) :
    dotted cs = cs := by
  refine (List.map_congr_left fun c hc => ?_).trans (List.map_id cs)
  rw [if_neg]
  · rfl
  · simp [ne_of_mem_of_not_mem hc hslash, ne_of_mem_of_not_mem hc hback]

theorem length_dotted (cs : List Char) : (dotted cs).length = cs.length :=
  List.length_map _

/-- Whatever the separators are, they become dots. -/
theorem dotted_of_joins {path : List Char} (h : Joins segs path)
    (hsegs : ∀ seg ∈ segs, IsSegment seg) : dotted path = unitChars segs := by
  induction h with
  | last seg =>
    have hseg := hsegs seg List.mem_cons_self
    rw [dotted_eq_self hseg.noSlash hseg.noBackslash, unitChars, List.intercalate_singleton]
  | @cons seg sep segs path hsep h ih =>
    obtain ⟨hseg, hsegs⟩ := List.forall_mem_cons.1 hsegs
    rw [← List.singleton_append, dotted_append, dotted_append, dotted_separator hsep,
      dotted_eq_self hseg.noSlash hseg.noBackslash, ih hsegs]
    cases h <;> simp [unitChars, List.intercalate_cons_cons]

/-! ## Segments -/

theorem segments_append_dot (cs cs' : List Char) :
    segments (cs ++ '.' :: cs') = segments cs ++ segments cs' :=
  List.splitOn_append_cons_self ..

theorem segments_eq_singleton {cs : List Char} (h : '.' ∉ cs) : segments cs = [cs] :=
  List.splitOn_eq_singleton h

theorem segments_unitChars (h : IsUnit segs) : segments (unitChars segs) = segs :=
  List.splitOn_intercalate '.' (fun seg hseg => (h.segment seg hseg).noDot) h.nonempty

/-! ## Extensions -/

/-- What is stripped is what is in front of the ending. -/
theorem stripEnding?_eq_some {ending name base : List Char} :
    stripEnding? ending name = some base ↔ name = base ++ ending := by
  have happend : ∀ before : List Char, stripEnding? ending (before ++ ending) = some before := by
    intro before
    rw [stripEnding?, if_pos (List.isSuffixOf_iff_suffix.2 (List.suffix_append before ending)),
      List.length_append, Nat.add_sub_cancel, List.take_left]
  constructor
  · intro h
    have hsuffix : ending <:+ name := by
      rw [stripEnding?] at h
      split at h
      · exact List.isSuffixOf_iff_suffix.1 ‹_›
      · cases h
    obtain ⟨before, rfl⟩ := hsuffix
    rw [Option.some.inj ((happend before).symm.trans h)]
  · rintro rfl
    exact happend base

theorem exists_of_stripExtension {name base : List Char}
    (h : stripExtension? exts name = some base) :
    ∃ ext ∈ exts, name = base ++ '.' :: ext.toList := by
  obtain ⟨ext, hext, hstrip⟩ := List.exists_of_findSome?_eq_some h
  exact ⟨ext, hext, stripEnding?_eq_some.1 hstrip⟩

/-- A name keeps its end if and only if that is no dotted extension. -/
theorem stripExtension?_eq_none {name : List Char} :
    stripExtension? exts name = none ↔ ∀ ext ∈ exts, ¬ ('.' :: ext.toList) <:+ name := by
  refine ⟨fun h => not_isSuffix_of_strip (by rw [h]; rfl), fun h => ?_⟩
  refine Option.eq_none_iff_forall_ne_some.2 fun base hstrip => ?_
  obtain ⟨ext, hext, rfl⟩ := exists_of_stripExtension hstrip
  exact h ext hext (List.suffix_append base _)

/-- Only the part after the last dot can be an extension without dots. -/
theorem getLast_segments {base ext : List Char} (h : '.' ∉ ext) :
    segments (base ++ '.' :: ext) = segments base ++ [ext] := by
  rw [segments_append_dot, segments_eq_singleton h]

/-- The extension of a name is stripped, be there others in the list that it might end in. -/
theorem stripExtension?_append {base : List Char} {ext : String}
    (hexts : ∀ ext ∈ exts, IsPlainExtension ext) (hext : ext ∈ exts) :
    stripExtension? exts (base ++ '.' :: ext.toList) = some base := by
  cases hstrip : stripExtension? exts (base ++ '.' :: ext.toList) with
  | none => exact absurd (List.suffix_append base _) (stripExtension?_eq_none.1 hstrip ext hext)
  | some base' =>
    obtain ⟨ext', hext', hname⟩ := exists_of_stripExtension hstrip
    have hsegments := congrArg segments hname
    rw [getLast_segments (hexts ext hext).noDot,
      getLast_segments (hexts ext' hext').noDot] at hsegments
    have hlast : ext.toList = ext'.toList :=
      List.head_eq_of_cons_eq (List.append_inj_right' hsegments rfl)
    rw [hlast] at hname
    rw [List.append_cancel_right hname]

/-- An id ends in an extension only where its last segment is one, and not the only one. -/
theorem stripExtension?_unitChars (hexts : ∀ ext ∈ exts, IsPlainExtension ext) (h : IsUnit segs)
    (hbare : IsBare exts segs) : stripExtension? exts (unitChars segs) = none := by
  refine stripExtension?_eq_none.2 fun ext hext hsuffix => ?_
  obtain ⟨base, hname⟩ := hsuffix
  have hsegments := congrArg segments hname.symm
  rw [segments_unitChars h, getLast_segments (hexts ext hext).noDot] at hsegments
  have hne : segments base ≠ [] := List.splitOn_ne_nil '.' base
  rcases hbare with hlength | hlast
  · rw [hsegments, List.length_append, List.length_singleton] at hlength
    exact hne (List.length_eq_zero_iff.1 (by omega))
  · rw [hsegments, List.getLast?_concat] at hlast
    exact hlast _ rfl (by rwa [String.ofList_toList])

/-! ## Trimming -/

theorem dropSlashes_eq_self {cs : List Char} (h : cs.head? ≠ some '/') : dropSlashes cs = cs := by
  cases cs with
  | nil => rfl
  | cons c cs => exact List.dropWhile_cons_of_neg (by simpa using h)

theorem dropSlashes_append (slashes : Nat) {cs : List Char} (h : cs.head? ≠ some '/') :
    dropSlashes (List.replicate slashes '/' ++ cs) = cs := by
  have hslash : ∀ c ∈ List.replicate slashes '/', (c == '/') = true := fun c hc =>
    beq_iff_eq.2 (List.eq_of_mem_replicate hc)
  rw [dropSlashes, List.dropWhile_append_of_pos hslash]
  exact dropSlashes_eq_self h

theorem joins_unitChars (h : segs ≠ []) : Joins segs (unitChars segs) := by
  induction segs with
  | nil => exact absurd rfl h
  | cons seg segs ih =>
    cases segs with
    | nil =>
      rw [unitChars, List.intercalate_singleton]
      exact .last seg
    | cons seg' segs =>
      have hpath : unitChars (seg :: seg' :: segs) = seg ++ '.' :: unitChars (seg' :: segs) := by
        rw [unitChars, List.intercalate_cons_cons, List.append_assoc]
        rfl
      rw [hpath]
      exact .cons seg (.inl rfl) (ih (by simp))

/-- A path begins as its first segment does. -/
theorem head?_of_joins {path : List Char} (h : Joins segs path)
    (hsegs : ∀ seg ∈ segs, IsSegment seg) : ∃ seg ∈ segs.head?, path.head? = seg.head? := by
  cases h with
  | last => exact ⟨_, rfl, rfl⟩
  | cons => exact ⟨_, rfl, List.head?_append_of_ne_nil _ (hsegs _ List.mem_cons_self).nonempty⟩

/-- And it ends as its last one does. -/
theorem getLast?_of_joins {path : List Char} (h : Joins segs path)
    (hsegs : ∀ seg ∈ segs, IsSegment seg) :
    path ≠ [] ∧ ∃ seg ∈ segs.getLast?, path.getLast? = seg.getLast? := by
  induction h with
  | last seg => exact ⟨(hsegs seg List.mem_cons_self).nonempty, seg, rfl, rfl⟩
  | @cons seg sep segs path hsep h ih =>
    obtain ⟨hne, last, hlast, hpath⟩ := ih (List.forall_mem_cons.1 hsegs).2
    obtain ⟨c, rest, rfl⟩ := List.exists_cons_of_ne_nil hne
    obtain ⟨seg', segs, rfl⟩ :=
      List.exists_cons_of_ne_nil (List.ne_nil_of_mem (List.mem_of_getLast? hlast))
    refine ⟨by simp, last, hlast, ?_⟩
    rw [List.getLast?_append_of_ne_nil _ (List.cons_ne_nil _ _), List.getLast?_cons_cons, hpath]

/-- No blank and no slash stands at the beginning of a path. -/
theorem head_of_joins {path : List Char} (hunit : IsUnit segs) (h : Joins segs path) :
    path.head? ≠ some '/' ∧ ∀ c ∈ path.head?, Text.isBlank c = false := by
  obtain ⟨seg, hseg, hhead⟩ := head?_of_joins h hunit.segment
  rw [hhead]
  refine ⟨fun hslash => ?_, hunit.head seg hseg⟩
  exact (hunit.segment seg (List.mem_of_head? hseg)).noSlash (List.mem_of_head? hslash)

theorem head?_name {path : List Char} (hunit : IsUnit segs) (h : Joins segs path)
    (ext : List Char) :
    (path ++ '.' :: ext).head? = path.head? :=
  List.head?_append_of_ne_nil _ (getLast?_of_joins h hunit.segment).1

theorem trimmed_of_joins {path : List Char} (hunit : IsUnit segs) (h : Joins segs path) :
    Trimmed path := by
  obtain ⟨-, seg, hseg, hlast⟩ := getLast?_of_joins h hunit.segment
  exact ⟨(head_of_joins hunit h).2, hlast ▸ hunit.last seg hseg⟩

/-- A name with an extension has no blanks at its ends. -/
theorem trimmed_name {path : List Char} {ext : String} (slashes : Nat) (hunit : IsUnit segs)
    (hpath : Joins segs path) (hext : IsPlainExtension ext) :
    Trimmed (List.replicate slashes '/' ++ (path ++ '.' :: ext.toList)) := by
  constructor
  · intro c hc
    cases slashes with
    | zero =>
      rw [List.replicate_zero, List.nil_append, head?_name hunit hpath] at hc
      exact (head_of_joins hunit hpath).2 c hc
    | succ n =>
      obtain rfl : '/' = c := by simpa [List.replicate_succ] using hc
      decide
  · intro c hc
    rw [← List.append_assoc, List.getLast?_append_of_ne_nil _ (List.cons_ne_nil _ _)] at hc
    rcases List.mem_cons.1 (List.mem_of_getLast? hc) with rfl | hc
    · decide
    · exact hext.noBlank c hc

/-! ## All names of a unit -/

/-- What is in front of the extension is the id, once separators are dots. -/
theorem canonicalChars?_eq_some {name id : List Char} :
    canonicalChars? exts name = some id ↔
      dotted ((stripExtension? exts (dropSlashes (Text.trim name))).getD
        (dropSlashes (Text.trim name))) = id ∧ ∀ seg ∈ segments id, seg ≠ [] := by
  simp only [canonicalChars?]
  split
  · rename_i hempty
    obtain ⟨seg, hseg, hnil⟩ := List.any_eq_true.1 hempty
    refine ⟨fun h => absurd h.symm (Option.some_ne_none id), ?_⟩
    rintro ⟨rfl, hsegments⟩
    exact absurd (List.isEmpty_iff.1 hnil) (hsegments seg hseg)
  · rename_i hnone
    rw [Option.some.injEq]
    refine ⟨?_, And.left⟩
    rintro rfl
    refine ⟨rfl, fun seg hseg hnil => hnone (List.any_eq_true.2 ⟨seg, hseg, ?_⟩)⟩
    rw [hnil]
    rfl

theorem canonicalChars?_of_joins {name path : List Char} (hunit : IsUnit segs)
    (hpath : Joins segs path) (hname : (stripExtension? exts (dropSlashes (Text.trim name))).getD
      (dropSlashes (Text.trim name)) = path) :
    canonicalChars? exts name = some (unitChars segs) := by
  rw [canonicalChars?_eq_some, hname, dotted_of_joins hpath hunit.segment,
    segments_unitChars hunit]
  exact ⟨rfl, fun seg hseg => (hunit.segment seg hseg).nonempty⟩

/-- Without its slashes in front, a name is a path with an extension. -/
theorem spells_dropSlashes {name : List Char} (hunit : IsUnit segs) (h : Spells exts segs name) :
    ∃ path, ∃ ext ∈ exts, Joins segs path ∧ dropSlashes name = path ++ '.' :: ext.toList := by
  cases h with
  | @intro slashes path ext hpath hext =>
    have hhead : (path ++ '.' :: ext.toList).head? ≠ some '/' := by
      rw [head?_name hunit hpath]
      exact (head_of_joins hunit hpath).1
    exact ⟨path, ext, hext, hpath, dropSlashes_append slashes hhead⟩

theorem trim_of_spells {name : List Char} (hexts : ∀ ext ∈ exts, IsPlainExtension ext)
    (hunit : IsUnit segs) (h : Spells exts segs name) : Text.trim name = name := by
  obtain ⟨slashes, hpath, hext⟩ := h
  exact Text.trim_eq_self_iff.2 (trimmed_name slashes hunit hpath (hexts _ hext))

/-- **All names of a unit with an extension have one id.** -/
theorem canonicalChars?_of_spells {name : List Char} (hexts : ∀ ext ∈ exts, IsPlainExtension ext)
    (hunit : IsUnit segs) (h : Spells exts segs name) :
    canonicalChars? exts name = some (unitChars segs) := by
  obtain ⟨path, ext, hext, hpath, hname⟩ := spells_dropSlashes hunit h
  refine canonicalChars?_of_joins hunit hpath ?_
  rw [trim_of_spells hexts hunit h, hname, stripExtension?_append hexts hext, Option.getD_some]

/-- The id is a name, where its last segment is no extension. -/
theorem canonicalChars?_unitChars (hexts : ∀ ext ∈ exts, IsPlainExtension ext) (hunit : IsUnit segs)
    (hbare : IsBare exts segs) : canonicalChars? exts (unitChars segs) = some (unitChars segs) := by
  have hjoins := joins_unitChars hunit.nonempty
  refine canonicalChars?_of_joins hunit hjoins ?_
  rw [Text.trim_eq_self_iff.2 (trimmed_of_joins hunit hjoins),
    dropSlashes_eq_self (head_of_joins hunit hjoins).1, stripExtension?_unitChars hexts hunit hbare,
    Option.getD_none]

theorem canonicalId?_eq_some {name id : String} :
    canonicalId? name exts = some id ↔ canonicalChars? exts name.toList = some id.toList := by
  rw [canonicalId?, Option.map_eq_some_iff]
  constructor
  · rintro ⟨chars, hchars, rfl⟩
    rwa [String.toList_ofList]
  · exact fun hchars => ⟨_, hchars, String.ofList_toList⟩

theorem canonicalId?_of_spells {name : String} (hexts : ∀ ext ∈ exts, IsPlainExtension ext)
    (hunit : IsUnit segs) (h : Spells exts segs name.toList) :
    canonicalId? name exts = some (String.ofList (unitChars segs)) := by
  rw [canonicalId?_eq_some, String.toList_ofList]
  exact canonicalChars?_of_spells hexts hunit h

theorem canonicalId?_of_isBare (hexts : ∀ ext ∈ exts, IsPlainExtension ext) (hunit : IsUnit segs)
    (h : IsBare exts segs) :
    canonicalId? (String.ofList (unitChars segs)) exts = some (String.ofList (unitChars segs)) := by
  rw [canonicalId?_eq_some, String.toList_ofList]
  exact canonicalChars?_unitChars hexts hunit h

/-- A file so named is the unit. -/
theorem classify?_of_spells {name : String} (hexts : ∀ ext ∈ exts, IsPlainExtension ext)
    (hunit : IsUnit segs) (h : Spells exts segs name.toList) :
    classify? name exts = some (.code (String.ofList (unitChars segs))) := by
  obtain ⟨path, ext, hext, hpath, hname⟩ := spells_dropSlashes hunit h
  have hstrip : stripExtension? exts (path ++ '.' :: ext.toList) = some path :=
    stripExtension?_append hexts hext
  -- what is left of the slashes is a name of the unit again, and its id is found from that
  have hid := canonicalChars?_of_spells hexts hunit (.intro 0 hpath hext)
  rw [List.replicate_zero, List.nil_append] at hid
  simp [classify?, hname, hstrip, hid]

/-! ## The id of an id -/

/-- Stripping an extension makes a name shorter. -/
theorem length_of_stripExtension {name base : List Char}
    (h : stripExtension? exts name = some base) :
    base.length < name.length := by
  obtain ⟨ext, -, rfl⟩ := exists_of_stripExtension h
  rw [List.length_append, List.length_cons]
  omega

theorem length_getD_stripExtension (exts : List String) (name : List Char) :
    ((stripExtension? exts name).getD name).length ≤ name.length ∧
      (((stripExtension? exts name).getD name).length = name.length →
        stripExtension? exts name = none) := by
  cases h : stripExtension? exts name with
  | none => exact ⟨Nat.le_refl _, fun _ => rfl⟩
  | some base =>
    have hlt := length_of_stripExtension h
    exact ⟨Nat.le_of_lt hlt, fun heq => absurd heq (Nat.ne_of_lt hlt)⟩

/-- **An id is no longer than its name**, and only where nothing is taken off it is as long. -/
theorem length_canonicalChars {name id : List Char} (h : canonicalChars? exts name = some id) :
    id.length ≤ name.length ∧
      (id.length = name.length → IsFixed exts name) := by
  obtain ⟨rfl, -⟩ := canonicalChars?_eq_some.1 h
  rw [length_dotted]
  have htrim := Text.trim_sublist name
  have hdrop : (dropSlashes (Text.trim name)).Sublist (Text.trim name) := List.dropWhile_sublist _
  obtain ⟨hle, heq⟩ := length_getD_stripExtension exts (dropSlashes (Text.trim name))
  refine ⟨hle.trans (hdrop.trans htrim).length_le, fun hlength => ?_⟩
  have hself : dropSlashes (Text.trim name) = name :=
    (hdrop.trans htrim).eq_of_length (Nat.le_antisymm (hdrop.trans htrim).length_le (hlength ▸ hle))
  rw [hself] at hdrop heq hlength
  exact ⟨Text.trim_eq_self_iff.1 (htrim.antisymm hdrop), stripExtension?_eq_none.1 (heq hlength)⟩

/-- An id has no slashes, so it loses nothing but blanks and an extension. -/
theorem canonicalChars?_of_isFixed {name id : List Char} (h : canonicalChars? exts name = some id)
    (hfixed : IsFixed exts id) : canonicalChars? exts id = some id := by
  obtain ⟨rfl, hsegments⟩ := canonicalChars?_eq_some.1 h
  generalize (stripExtension? exts _).getD _ = base at *
  obtain ⟨hslash, hback⟩ := separator_not_mem_dotted base
  have hhead : (dotted base).head? ≠ some '/' := fun hhead => hslash (List.mem_of_head? hhead)
  rw [canonicalChars?_eq_some, Text.trim_eq_self_iff.2 hfixed.trimmed, dropSlashes_eq_self hhead,
    stripExtension?_eq_none.2 hfixed.plain, Option.getD_none, dotted_eq_self hslash hback]
  exact ⟨rfl, hsegments⟩

/-- **An id stands for itself if and only if it is trimmed and ends in no extension**; else it
stands for a shorter id, or none. -/
theorem canonicalChars?_id {name id : List Char} (h : canonicalChars? exts name = some id) :
    (canonicalChars? exts id = some id ↔ IsFixed exts id) ∧
      ∀ id', canonicalChars? exts id = some id' → id' = id ∨ id'.length < id.length := by
  refine ⟨⟨fun hid => (length_canonicalChars hid).2 rfl, canonicalChars?_of_isFixed h⟩,
    fun id' hid' => ?_⟩
  obtain ⟨hle, heq⟩ := length_canonicalChars hid'
  rcases Nat.lt_or_eq_of_le hle with hlt | hlength
  · exact .inr hlt
  · rw [canonicalChars?_of_isFixed h (heq hlength), Option.some.injEq] at hid'
    exact .inl hid'.symm

theorem canonicalId?_id {name id : String} (h : canonicalId? name exts = some id) :
    (canonicalId? id exts = some id ↔ IsFixed exts id.toList) ∧
      ∀ id', canonicalId? id exts = some id' → id' = id ∨ id'.length < id.length := by
  obtain ⟨hself, hshorter⟩ := canonicalChars?_id (canonicalId?_eq_some.1 h)
  refine ⟨canonicalId?_eq_some.trans hself, fun id' hid' => ?_⟩
  rw [← String.length_toList, ← String.length_toList, ← String.toList_inj]
  exact hshorter _ (canonicalId?_eq_some.1 hid')

end Tenancy.Naming
