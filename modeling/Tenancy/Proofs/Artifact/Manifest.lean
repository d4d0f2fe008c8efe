import Mathlib.Data.List.TakeWhile
import Tenancy.Artifact.Manifest
import Tenancy.Proofs.Text.Blank
import Tenancy.Proofs.Text.Utf8

/-!
# Proofs/Artifact/Manifest — a manifest says what its lines say

    line feed     names (text ++ "\n" ++ text')    =  names text ++ names text'
    line          names (blanks ++ id ++ blanks ++ comment)  =  [id]

Everything about a manifest follows from these two.  `Lists` says which texts list which ids, and a
text is read as the ids that it lists (`Manifest.names_eq_iff`).  A line feed stands alone among
bytes, whatever is before it, so that bytes are read line by line as characters are
(`Manifest.parse_append_feed`).
-/

namespace Tenancy.Manifest

open Text (Blanks Trimmed)

/-! ## Texts that list ids -/

/-- What a manifest can name. -/
structure IsId (id : String) : Prop where
  nonempty : id ≠ ""
  trimmed : Trimmed id.toList
  noMark : '#' ∉ id.toList
  noFeed : '\n' ∉ id.toList

/-- Blanks that do not end the line. -/
structure Spaces (cs : List Char) : Prop where
  blanks : Blanks cs
  noFeed : '\n' ∉ cs

/-- Nothing, or a mark and any text up to the end of the line. -/
inductive IsComment : List Char → Prop
  | none : IsComment []
  | mark {text : List Char} (noFeed : '\n' ∉ text) : IsComment ('#' :: text)

/-- **A line names one id, or none.**  A carriage return before the line feed is one of the spaces
or the end of the comment. -/
inductive Names : List Char → List String → Prop
  | id {lead trail comment : List Char} {id : String} (hlead : Spaces lead) (hid : IsId id)
      (htrail : Spaces trail) (hcomment : IsComment comment) :
      Names (lead ++ (id.toList ++ trail) ++ comment) [id]
  | nothing {spaces comment : List Char} (hspaces : Spaces spaces) (hcomment : IsComment comment) :
      Names (spaces ++ comment) []

/-- **A text lists the ids that its lines name**, in order.  The last line may have a line feed:
then nothing is on the line after it. -/
inductive Lists : List Char → List String → Prop
  | last {line : List Char} {ids : List String} (h : Names line ids) : Lists line ids
  | line {line rest : List Char} {ids ids' : List String} (h : Names line ids)
      (hrest : Lists rest ids') : Lists (line ++ '\n' :: rest) (ids ++ ids')

/-! ## A line -/

theorem isBlank_mark : Text.isBlank '#' = false := by
  decide

theorem IsComment.takeWhile_eq {cs comment : List Char} (h : IsComment comment) (hcs : '#' ∉ cs) :
    (cs ++ comment).takeWhile (· != '#') = cs := by
  have hall : ∀ c ∈ cs, (c != '#') = true := fun c hc => bne_iff_ne.2 (ne_of_mem_of_not_mem hc hcs)
  rw [List.takeWhile_append_of_pos hall]
  cases h with
  | none => exact List.append_nil cs
  | mark => exact List.append_nil cs

theorem IsComment.noFeed {comment : List Char} (h : IsComment comment) : '\n' ∉ comment := by
  cases h with
  | none => exact List.not_mem_nil
  | mark h => simpa using h

theorem Spaces.noMark {cs : List Char} (h : Spaces cs) : '#' ∉ cs := fun hmem => by
  cases isBlank_mark.symm.trans (h.blanks '#' hmem)

theorem Names.noFeed {line : List Char} {ids : List String} (h : Names line ids) : '\n' ∉ line := by
  cases h with
  | id hlead hid htrail hcomment =>
    simp [hlead.noFeed, hid.noFeed, htrail.noFeed, hcomment.noFeed]
  | nothing hspaces hcomment => simp [hspaces.noFeed, hcomment.noFeed]

/-- Without a line feed there is one line. -/
theorem names_line {line : List Char} (h : '\n' ∉ line) :
    names line = if nameOf line = [] then [] else [String.ofList (nameOf line)] := by
  rw [names, List.splitOn_eq_singleton h, List.map_singleton, List.filterMap_cons,
    List.filterMap_nil]
  by_cases hname : nameOf line = [] <;> simp [hname]

/-- A line is read as what it names. -/
theorem Names.names_eq {line : List Char} {ids : List String} (h : Names line ids) :
    names line = ids := by
  rw [names_line h.noFeed]
  cases h with
  | @id lead trail comment id hlead hid htrail hcomment =>
    have hbody : '#' ∉ lead ++ (id.toList ++ trail) := by
      simp [hlead.noMark, hid.noMark, htrail.noMark]
    have hnonempty : id.toList ≠ [] := fun h => hid.nonempty (String.toList_eq_nil_iff.1 h)
    rw [nameOf, hcomment.takeWhile_eq hbody,
      Text.trim_append hlead.blanks hid.trimmed htrail.blanks, if_neg hnonempty,
      String.ofList_toList]
  | nothing hspaces hcomment =>
    rw [nameOf, hcomment.takeWhile_eq hspaces.noMark, Text.trim_eq_nil hspaces.blanks, if_pos rfl]

/-- A line is a body without a mark and a comment. -/
theorem exists_body {line : List Char} (h : '\n' ∉ line) :
    ∃ body comment, line = body ++ comment ∧ '#' ∉ body ∧ IsComment comment := by
  refine ⟨line.takeWhile (· != '#'), line.dropWhile (· != '#'),
    List.takeWhile_append_dropWhile.symm, fun hc => by simpa using List.mem_takeWhile_imp hc, ?_⟩
  cases hrest : line.dropWhile (· != '#') with
  | nil => exact .none
  | cons c rest =>
    have hhead := List.head?_dropWhile_not (· != '#') line
    have hfeed : '\n' ∉ c :: rest := fun hc => h ((List.dropWhile_sublist _).mem (hrest ▸ hc))
    rw [hrest] at hhead
    obtain rfl : c = '#' := by simpa using hhead
    exact .mark fun hc => hfeed (List.mem_cons_of_mem _ hc)

/-- Every line names what it is read as. -/
theorem names_names {line : List Char} (h : '\n' ∉ line) : Names line (names line) := by
  obtain ⟨body, comment, rfl, hmark, hcomment⟩ := exists_body h
  obtain ⟨lead, trail, hlead, htrail, hbody⟩ := Text.exists_trim body
  have htrimmed := Text.trimmed_trim body
  rw [names_line h, nameOf, hcomment.takeWhile_eq hmark]
  generalize Text.trim body = name at hbody htrimmed ⊢
  subst hbody
  simp only [List.mem_append, not_or] at h hmark
  obtain ⟨⟨hleadFeed, hnameFeed, htrailFeed⟩, -⟩ := h
  split
  · rename_i hname
    subst hname
    refine .nothing ⟨List.forall_mem_append.2 ⟨hlead, htrail⟩, ?_⟩ hcomment
    simp [hleadFeed, htrailFeed]
  · rename_i hname
    have hid : IsId (String.ofList name) :=
      { nonempty := fun he => hname (by simpa using congrArg String.toList he)
        trimmed := by rwa [String.toList_ofList]
        noMark := by rw [String.toList_ofList]; exact hmark.2.1
        noFeed := by rwa [String.toList_ofList] }
    simpa using Names.id ⟨hlead, hleadFeed⟩ hid ⟨htrail, htrailFeed⟩ hcomment

/-! ## A text -/

/-- **Lines are read one by one.** -/
theorem names_append_feed (cs cs' : List Char) :
    names (cs ++ '\n' :: cs') = names cs ++ names cs' := by
  rw [names, List.splitOn_append_cons_self, List.map_append, List.filterMap_append]
  rfl

theorem Lists.names_eq {cs : List Char} {ids : List String} (h : Lists cs ids) :
    names cs = ids := by
  induction h with
  | last h => exact h.names_eq
  | line h _ ih => rw [names_append_feed, h.names_eq, ih]

/-- Every text lists what it is read as. -/
theorem lists_names (cs : List Char) : Lists cs (names cs) := by
  -- on the length, one line off the front at a time
  induction hn : cs.length using Nat.strongRecOn generalizing cs with
  | _ n ih =>
    by_cases hfeed : '\n' ∈ cs
    · obtain ⟨line, rest, rfl, hline⟩ := List.eq_append_cons_of_mem hfeed
      rw [List.length_append, List.length_cons] at hn
      rw [names_append_feed]
      exact .line (names_names hline) (ih rest.length (by omega) rest rfl)
    · exact .last (names_names hfeed)

/-- **A text is read as the ids that it lists**, and lists no others. -/
theorem names_eq_iff {cs : List Char} {ids : List String} : names cs = ids ↔ Lists cs ids := by
  constructor
  · rintro rfl
    exact lists_names cs
  · exact Lists.names_eq

theorem Lists.isId {cs : List Char} {ids : List String} (h : Lists cs ids) :
    ∀ id ∈ ids, IsId id := by
  have hline : ∀ {line ids}, Names line ids → ∀ id ∈ ids, IsId id := by
    intro line ids h
    cases h with
    | id _ hid => simpa using hid
    | nothing => exact nofun
  induction h with
  | last h => exact hline h
  | line h _ ih => exact List.forall_mem_append.2 ⟨hline h, ih⟩

/-! ## Bytes -/

/-- Bytes are read line by line, be they well formed or not. -/
theorem parse_append_feed (a b : Bytes) : parse (a ++ 0x0A :: b) = parse a ++ parse b := by
  rw [parse, Text.decodeLossy_append_ascii (by decide)]
  exact names_append_feed _ _

/-- **A manifest says what its lines say, and nothing else.**  Encoded text is read as the ids that
it lists, whatever spaces, comments and empty lines it has; from any bytes come ids only; and a line
feed parts what is read, wherever it stands. -/
theorem parse_lists :
    (∀ cs ids, parse (Text.encode cs) = ids ↔ Lists cs ids) ∧
    (∀ bs, ∀ id ∈ parse bs, IsId id) ∧
    ∀ a b, parse (a ++ 0x0A :: b) = parse a ++ parse b := by
  refine ⟨fun cs ids => ?_, fun bs => ?_, parse_append_feed⟩
  · rw [parse, Text.decodeLossy_encode]
    exact names_eq_iff
  · exact (lists_names (Text.decodeLossy bs)).isId

example : parse (utf8 "# drivers\r\n\n\tapp.Driver # main\r\n b.B") = ["app.Driver", "b.B"] := by
  decide +kernel

end Tenancy.Manifest
