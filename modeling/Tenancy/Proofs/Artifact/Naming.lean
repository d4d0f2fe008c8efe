import Tenancy.Artifact.Naming
import Tenancy.Bundle.Settings

/-!
# Proofs/Artifact/Naming — the keys that names stand for

The id of a code unit is one or more non-empty segments between dots, none of them with a separator
of paths in it; the path of a data file is not empty, does not begin with a slash and has no code
extension.  Names stand for no other keys (`Naming.isDotted_canonicalId`, `Naming.isKey_classify`),
whatever the extensions are.
-/

namespace Tenancy

namespace Naming

/-! ## Dotted ids -/

/-- **An id of one or more non-empty segments between dots**, without a separator of paths. -/
def IsDotted (id : String) : Prop :=
  ∃ segs : List (List Char), segs ≠ [] ∧ id.toList = ['.'].intercalate segs ∧
    ∀ seg ∈ segs, seg ≠ [] ∧ '.' ∉ seg ∧ '/' ∉ seg ∧ '\\' ∉ seg

/-- Segments have the characters of the text but its dots. -/
theorem ne_dot_of_mem_segment {cs seg : List Char} (h : seg ∈ segments cs) :
    ∀ c ∈ seg, c ≠ '.' ∧ c ∈ cs := by
  induction cs generalizing seg with
  | nil =>
    obtain rfl := List.mem_singleton.1 h
    exact nofun
  | cons c cs ih =>
    have hrest : ∀ {seg}, seg ∈ segments cs → ∀ d ∈ seg, d ≠ '.' ∧ d ∈ c :: cs :=
      fun hseg d hd => (ih hseg d hd).imp_right (List.mem_cons_of_mem c)
    rw [segments, List.splitOn, List.splitOnP_cons_eq_if_modifyHead] at h
    split at h
    · rcases List.mem_cons.1 h with rfl | h
      · exact nofun
      · exact hrest h
    · rename_i hc
      -- the character goes in front of the first segment of the rest
      obtain ⟨first, others, hsegments⟩ := List.exists_cons_of_ne_nil (List.splitOn_ne_nil '.' cs)
      have hcs : segments cs = first :: others := hsegments
      rw [← List.splitOn, hsegments, List.modifyHead_cons] at h
      rcases List.mem_cons.1 h with rfl | h
      · refine List.forall_mem_cons.2 ⟨⟨fun hdot => hc (beq_iff_eq.2 hdot), List.mem_cons_self⟩, ?_⟩
        exact hrest (hcs ▸ List.mem_cons_self)
      · exact hrest (hcs ▸ List.mem_cons_of_mem first h)

theorem separator_not_mem_dotted (cs : List Char) : '/' ∉ dotted cs ∧ '\\' ∉ dotted cs := by
  have hpart : ∀ c d : Char, (d = '/' ∨ d = '\\') →
      (if c == '/' || c == '\\' then '.' else c) ≠ d := by
    intro c d hd
    split
    · rcases hd with rfl | rfl <;> decide
    · rename_i hc
      rintro rfl
      simp_all
  simp only [dotted, List.mem_map, not_exists, not_and]
  exact ⟨fun c _ => hpart c '/' (.inl rfl), fun c _ => hpart c '\\' (.inr rfl)⟩

theorem isDotted_canonicalChars {name id : List Char} {exts : List String}
    (h : canonicalChars? exts name = some id) : IsDotted (String.ofList id) := by
  rw [canonicalChars?] at h
  split at h
  · cases h
  · rename_i hsegments
    obtain rfl := Option.some.inj h
    generalize hcs : dotted _ = cs at hsegments ⊢
    have hseparator : '/' ∉ cs ∧ '\\' ∉ cs := hcs ▸ separator_not_mem_dotted _
    refine ⟨segments cs, List.splitOn_ne_nil '.' cs, ?_, fun seg hseg => ?_⟩
    · rw [String.toList_ofList]
      exact (List.intercalate_splitOn '.').symm
    · have hchars := ne_dot_of_mem_segment hseg
      refine ⟨?_, fun hc => (hchars _ hc).1 rfl, fun hc => hseparator.1 (hchars _ hc).2,
        fun hc => hseparator.2 (hchars _ hc).2⟩
      rintro rfl
      exact hsegments (List.any_eq_true.2 ⟨[], hseg, rfl⟩)

/-- **A code unit gets a dotted id**, or none. -/
theorem isDotted_canonicalId {name id : String} {exts : List String}
    (h : canonicalId? name exts = some id) : IsDotted id := by
  obtain ⟨cs, hcs, rfl⟩ := Option.map_eq_some_iff.1 h
  exact isDotted_canonicalChars hcs

/-! ## Paths of data files -/

/-- A path that is not empty, does not begin with a slash and ends in no dotted extension. -/
structure IsDataPath (exts : List String) (path : String) : Prop where
  nonempty : path ≠ ""
  relative : path.toList.head? ≠ some '/'
  plain : ∀ ext ∈ exts, ¬ ('.' :: ext.toList) <:+ path.toList

theorem not_isSuffix_of_strip {exts : List String} {name : List Char}
    (h : (stripExtension? exts name).isSome = false) :
    ∀ ext ∈ exts, ¬ ('.' :: ext.toList) <:+ name := by
  intro ext hext hsuffix
  have hstrip : stripExtension? exts name = none :=
    Option.isNone_iff_eq_none.1 (Option.isSome_eq_false_iff.1 h)
  have hnone := List.findSome?_eq_none_iff.1 hstrip ext hext
  rw [stripEnding?, if_pos (List.isSuffixOf_iff_suffix.2 hsuffix)] at hnone
  cases hnone

theorem head_dropSlashes (cs : List Char) : (dropSlashes cs).head? ≠ some '/' := by
  intro h
  have hhead := List.head?_dropWhile_not (· == '/') cs
  rw [← dropSlashes, h] at hhead
  simp at hhead

/-! ## Keys -/

variable {s : ExtractorSettings}

/-- **The keys that an extraction may give**: a code unit has a dotted id that the filter allows, a
data file a path. -/
inductive IsKey (s : ExtractorSettings) : ArtifactKey → Prop
  | code {id : String} (hdotted : IsDotted id) (hallowed : s.filter.isAllowed id = true) :
      IsKey s (.code id)
  | data {path : String} (hpath : IsDataPath s.codeExtensions path) : IsKey s (.data path)

/-- A file of an archive gets such a key, or none, once the filter allows it where it is code. -/
theorem isKey_classify {name : String} {key : ArtifactKey}
    (h : classify? name s.codeExtensions = some key)
    (hallowed : key.kind = .code → s.filter.isAllowed key.id = true) : IsKey s key := by
  rw [classify?] at h
  split at h
  · cases h
  · rename_i hnonempty
    split at h
    · obtain ⟨cs, hcs, rfl⟩ := Option.map_eq_some_iff.1 h
      exact .code (isDotted_canonicalChars hcs) (hallowed rfl)
    · rename_i hplain
      obtain rfl := Option.some.inj h
      refine .data ⟨fun hempty => ?_, ?_, ?_⟩
      · have hchars := congrArg String.toList hempty
        rw [String.toList_ofList] at hchars
        exact hnonempty (by rw [hchars]; rfl)
      · rw [String.toList_ofList]
        exact head_dropSlashes name.toList
      · rw [String.toList_ofList]
        exact not_isSuffix_of_strip (Bool.eq_false_iff.2 hplain)

end Naming

end Tenancy
