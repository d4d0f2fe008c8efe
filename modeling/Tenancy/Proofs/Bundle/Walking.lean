import Tenancy.Bundle.Walk
import Tenancy.Proofs.Files.Plain

/-!
# Proofs/Bundle/Walking — the files that a walk lists

    file at  way of the root ++ names    listed with    names  and  "root/name/name/…"

A walk of a tree without links lists every file below its root that is not passed over, once, and
nothing else (`Walk.walked_found`).  It fails only where a directory on the way has a path that is
too long to be opened.  A file that is listed is read at the path it is listed at
(`Walk.read_place`).
-/

namespace Tenancy.Walk

open Files (IsName Node Tree Way isAbsolute isLongPath parts wantsDirectory)

/-! ## Paths below the root -/

/-- The path of what stands under names below a path. -/
def place (path : String) (names : List String) : String :=
  names.foldl join path

variable {dir name root : String} {names : List String}

@[simp] theorem place_nil (path : String) : place path [] = path := rfl

theorem place_concat (path : String) (names : List String) (name : String) :
    place path (names ++ [name]) = join (place path names) name :=
  List.foldl_concat join path name names

/-- A path is taken further by a slash and a name. -/
theorem toList_join (dir name : String) : ∃ before : String,
    parts before = parts dir ∧ (∀ c ∈ before.toList, c ∈ dir.toList) ∧
      (join dir name).toList = before.toList ++ '/' :: name.toList := by
  rw [join]
  split
  · rename_i hslash
    have hlast : dir.toList.getLast? = some '/' := by simpa using hslash
    obtain ⟨before, hbefore⟩ := List.getLast?_eq_some_iff.1 hlast
    refine ⟨String.ofList before, ?_, ?_, by simp [hbefore]⟩
    · have hparts : parts dir = parts (String.ofList before) ++ parts "" :=
        Files.parts_append_slash (by simp [hbefore])
      rw [hparts, show parts "" = [] from rfl, List.append_nil]
    · intro c hc
      rw [hbefore]
      exact List.mem_append_left _ (by simpa using hc)
  · exact ⟨dir, rfl, fun c hc => hc, by simp⟩

theorem parts_join (dir : String) (h : IsName name) :
    parts (join dir name) = parts dir ++ [name] := by
  obtain ⟨before, hparts, -, hjoin⟩ := toList_join dir name
  rw [Files.parts_append_slash hjoin, hparts, h.parts_eq]

theorem no_mark_join (hdir : '\x00' ∉ dir.toList) (h : IsName name) :
    '\x00' ∉ (join dir name).toList := by
  obtain ⟨before, -, hbefore, hjoin⟩ := toList_join dir name
  rw [hjoin, List.mem_append, List.mem_cons, not_or, not_or]
  exact ⟨fun hc => hdir (hbefore _ hc), by decide, h.no_mark⟩

theorem isAbsolute_join (hdir : dir ≠ "") (name : String) :
    isAbsolute (join dir name) = isAbsolute dir := by
  have hne : dir.toList ≠ [] := by simpa using hdir
  rw [join, isAbsolute, isAbsolute]
  split <;> simp [List.head?_append_of_ne_nil _ hne]

/-- An ending of a path with a slash in it is longer than the name in the last place. -/
theorem length_lt_of_suffix (h : IsName name) {cs ending : List Char}
    (hname : name.toList <:+ cs) (hending : ending <:+ cs) (hmem : '/' ∈ ending) :
    name.toList.length < ending.length := by
  by_contra hle
  have hsuffix := List.suffix_of_suffix_length_le hending hname (Nat.not_lt.1 hle)
  exact h.no_slash (hsuffix.subset hmem)

theorem wantsDirectory_join (dir : String) (h : IsName name) :
    wantsDirectory (join dir name) = false := by
  obtain ⟨before, -, -, hjoin⟩ := toList_join dir name
  have hname : name.toList <:+ (join dir name).toList :=
    hjoin ▸ (List.suffix_cons _ _).trans (List.suffix_append _ _)
  have hpos : 0 < name.toList.length := List.length_pos_iff.2 (by simpa using h.ne_empty)
  rw [wantsDirectory, Bool.or_eq_false_iff]
  constructor
  · rw [beq_eq_false_iff_ne]
    intro hlast
    obtain ⟨init, hinit⟩ := List.getLast?_eq_some_iff.1 hlast
    have hlength := length_lt_of_suffix h hname ⟨init, hinit.symm⟩ (List.mem_singleton_self '/')
    rw [List.length_singleton] at hlength
    omega
  · rw [Bool.eq_false_iff]
    intro hdot
    have hending := List.isSuffixOf_iff_suffix.1 hdot
    have hlength := length_lt_of_suffix h hname hending List.mem_cons_self
    have hone : name.toList.length = 1 := Nat.le_antisymm (Nat.le_of_lt_succ hlength) hpos
    obtain ⟨c, hc⟩ := List.length_eq_one_iff.1 hone
    have hsuffix := List.suffix_of_suffix_length_le hname hending (Nat.le_of_lt hlength)
    have hlast := hsuffix.getLast (by simp [hc])
    simp only [hc, List.getLast_singleton, List.getLast_cons_cons] at hlast
    exact h.ne_dot (String.toList_injective (hc.trans (by rw [hlast]; rfl)))

/-- **What is below a path**, as paths go. -/
structure IsBelow (root : String) (names : List String) (path : String) : Prop where
  parts_eq : parts path = parts root ++ names
  no_mark : '\x00' ∉ path.toList
  ne_empty : path ≠ ""
  relative : isAbsolute path = false
  ends_in_name : names ≠ [] → wantsDirectory path = false

theorem isBelow_place (hmark : '\x00' ∉ root.toList) (hne : root ≠ "")
    (hrelative : isAbsolute root = false) (hnames : ∀ name ∈ names, IsName name) :
    IsBelow root names (place root names) := by
  induction names using List.reverseRec with
  | nil => exact ⟨(List.append_nil _).symm, hmark, hne, hrelative, fun h => absurd rfl h⟩
  | append_singleton names name ih =>
    have hname := hnames name (by simp)
    have hbelow := ih fun n hn => hnames n (List.mem_append_left _ hn)
    rw [place_concat]
    exact {
      parts_eq := by rw [parts_join _ hname, hbelow.parts_eq, List.append_assoc]
      no_mark := no_mark_join hbelow.no_mark hname
      ne_empty := by
        intro h
        have hparts := parts_join (place root names) hname
        rw [h] at hparts
        exact List.append_ne_nil_of_right_ne_nil _ (List.cons_ne_nil _ _) hparts.symm
      relative := (isAbsolute_join hbelow.ne_empty name).trans hbelow.relative
      ends_in_name := fun _ => wantsDirectory_join _ hname }

/-! ## What is below the root -/

variable {t : Tree} {s : WalkSettings} {here : Way} {node : Node}

/-- **The root leads to a node of the tree**, from where the tree begins.  So it is relative: a tree
holds nothing that an absolute path could find (`Files.Tree.resolve`). -/
structure Leads (t : Tree) (root : String) (here : Way) : Prop where
  relative : isAbsolute root = false
  exists_node : ∃ node, t.resolve false root = .ok (here, node)

/-- **A node is kept**: it stands below the root under names none of which is passed over, and
neither is the name of the root. -/
structure Kept (t : Tree) (s : WalkSettings) (root : String) (here : Way) (names : List String)
    (node : Node) : Prop where
  at_way : t.at? (here ++ names) = some node
  not_ignored : ∀ name ∈ rootName root :: names, name ∉ s.ignore

/-- A file below the root has its content read, unless its path is too long. -/
theorem read_place (ht : t.IsPlain) (hroot : Leads t root here) {content : Bytes}
    (h : t.at? (here ++ names) = some (.file content)) : t.read (place root names) =
      if isLongPath (place root names) then .error .nameTooLong else .ok content := by
  obtain ⟨node, hnode⟩ := hroot.exists_node
  obtain ⟨hcheck, hlead⟩ := ht.resolve_eq_ok hnode
  obtain ⟨hmark, hne, hshort⟩ := Files.checkPath_eq_ok hcheck
  have hbelow : IsBelow root names (place root names) :=
    isBelow_place hmark hne hroot.relative fun n hn => ht.isName h n (List.mem_append_right _ hn)
  by_cases hnames : names = []
  · subst hnames
    rw [List.append_nil, Tree.at?_of_lead hlead] at h
    cases h
    rw [ht.resolve_eq, ← ht.resolve_eq true] at hnode
    rw [place_nil, hshort, Tree.read, hnode]
    rfl
  · rw [Tree.read, ht.resolve_append hnode hbelow.parts_eq hbelow.relative
      (hbelow.ends_in_name hnames) h true, Files.checkPath_of_ne hbelow.no_mark hbelow.ne_empty]
    cases isLongPath (place root names) <;> rfl

/-! ## The walk -/

/-- **What a walk comes to** among the names it goes through: every file that is kept, once, or the
first directory whose path is too long. -/
inductive Walked (t : Tree) (s : WalkSettings) (root : String) (here : Way)
    (through : List String → Prop) : Except IoFault (List Found) → Prop
  | listed {fs : List Found} (nodup : fs.Nodup)
      (mem : ∀ f, f ∈ fs ↔ ∃ names content, through names ∧
        Kept t s root here names (.file content) ∧ f = (names, place root names))
      (short : ∀ names, through names → Kept t s root here names .directory →
        isLongPath (place root names) = false) :
      Walked t s root here through (.ok fs)
  | long {names : List String} (hthrough : through names)
      (hkept : Kept t s root here names .directory)
      (hlong : isLongPath (place root names) = true) :
      Walked t s root here through (.error (.walk root (place root names) .nameTooLong))

namespace Walked

variable {through through' : List String → Prop} {x y : Except IoFault (List Found)}

theorem nothing (h : ∀ names node, through names → ¬ Kept t s root here names node) :
    Walked t s root here through (.ok []) := by
  have hnone : ∀ f, ¬ ∃ names content, through names ∧
      Kept t s root here names (.file content) ∧ f = (names, place root names) := by
    rintro f ⟨names, content, hn, hkept, -⟩
    exact h names _ hn hkept
  exact .listed List.nodup_nil (fun f => iff_of_false List.not_mem_nil (hnone f))
    fun names hn hkept => absurd hkept (h names _ hn)

/-- Going through more makes no difference if nothing is kept there but directories that can be
opened. -/
theorem widen (h : Walked t s root here through x) (hsub : ∀ names, through names → through' names)
    (hrest : ∀ names node, through' names → Kept t s root here names node →
      through names ∨ node = .directory ∧ isLongPath (place root names) = false) :
    Walked t s root here through' x := by
  cases h with
  | listed nodup mem short =>
    refine .listed nodup (fun f => (mem f).trans ⟨?_, ?_⟩) fun names hn hkept => ?_
    · rintro ⟨names, content, hn, hkept, rfl⟩
      exact ⟨names, content, hsub names hn, hkept, rfl⟩
    · rintro ⟨names, content, hn, hkept, rfl⟩
      rcases hrest names _ hn hkept with hn | ⟨⟨⟩, -⟩
      exact ⟨names, content, hn, hkept, rfl⟩
    · rcases hrest names _ hn hkept with hn | ⟨-, hshort⟩
      · exact short names hn hkept
      · exact hshort
  | long hthrough hkept hlong => exact .long (hsub _ hthrough) hkept hlong

/-- Walks through different names, one after the other. -/
theorem append (hx : Walked t s root here through x) (hy : Walked t s root here through' y)
    (hdisjoint : ∀ names, through names → ¬ through' names) :
    Walked t s root here (fun names => through names ∨ through' names)
      (do let first ← x; let others ← y; .ok (first ++ others)) := by
  cases hx with
  | long hthrough hkept hlong => exact .long (.inl hthrough) hkept hlong
  | listed nodup mem short =>
    cases hy with
    | long hthrough hkept hlong => exact .long (.inr hthrough) hkept hlong
    | listed nodup' mem' short' =>
      refine .listed (List.nodup_append.2 ⟨nodup, nodup', ?_⟩) (fun f => ?_) ?_
      · rintro f hf _ hf' rfl
        obtain ⟨names, -, hn, -, rfl⟩ := (mem f).1 hf
        obtain ⟨names', -, hn', -, he⟩ := (mem' _).1 hf'
        cases (Prod.ext_iff.1 he).1
        exact hdisjoint names hn hn'
      · rw [List.mem_append, mem, mem']
        constructor
        · rintro (⟨names, content, hn, hkept⟩ | ⟨names, content, hn, hkept⟩)
          · exact ⟨names, content, .inl hn, hkept⟩
          · exact ⟨names, content, .inr hn, hkept⟩
        · rintro ⟨names, content, hn | hn, hkept⟩
          · exact .inl ⟨names, content, hn, hkept⟩
          · exact .inr ⟨names, content, hn, hkept⟩
      · rintro names (hn | hn)
        · exact short names hn
        · exact short' names hn

end Walked

/-- Whatever is at or below an entry with an ignored name bears the name too. -/
theorem walked_ignored {above : List String} (hname : rootName root :: names = above ++ [name])
    (hignored : name ∈ s.ignore) : Walked t s root here (names <+: ·) (.ok []) := by
  refine .nothing ?_
  rintro _ n ⟨rest, rfl⟩ hkept
  refine hkept.not_ignored name ?_ hignored
  rw [← List.cons_append, hname]
  simp

/-- Nothing is below a file. -/
theorem walked_file (ht : t.IsPlain) {content : Bytes}
    (hkept : Kept t s root here names (.file content)) :
    Walked t s root here (names <+: ·) (.ok [(names, place root names)]) := by
  have hsame : ∀ ns n, names <+: ns → Kept t s root here ns n →
      ns = names ∧ n = .file content := by
    rintro _ n ⟨rest, rfl⟩ hbelow
    have hat := hbelow.at_way
    rw [← List.append_assoc] at hat
    by_cases hrest : rest = []
    · rw [hrest, List.append_nil, hkept.at_way] at hat
      exact ⟨by rw [hrest, List.append_nil], (Option.some.inj hat).symm⟩
    · have hdirectory := ht.above hat hrest
      rw [hkept.at_way] at hdirectory
      cases hdirectory
  refine .listed (List.nodup_singleton _) (fun f => ?_) fun ns hns hdirectory => ?_
  · rw [List.mem_singleton]
    constructor
    · rintro rfl
      exact ⟨names, content, List.prefix_rfl, hkept, rfl⟩
    · rintro ⟨ns, _, hns, hfile, rfl⟩
      rw [(hsame ns _ hns hfile).1]
  · cases (hsame ns _ hns hdirectory).2

/-- At and below a directory that can be opened is what its entries lead to. -/
theorem walked_directory (ht : t.IsPlain) {x : Except IoFault (List Found)}
    (hat : t.at? (here ++ names) = some .directory) (hshort : isLongPath (place root names) = false)
    (hx : Walked t s root here
      (fun ns => ∃ kid ∈ t.children (here ++ names), names ++ [kid.1] <+: ns) x) :
    Walked t s root here (names <+: ·) x := by
  refine hx.widen ?_ ?_
  · rintro ns ⟨kid, -, hns⟩
    exact (List.prefix_append _ _).trans hns
  · rintro _ n ⟨rest, rfl⟩ hkept
    have hbelow := hkept.at_way
    rw [← List.append_assoc] at hbelow
    cases rest with
    | nil =>
      rw [List.append_nil, hat] at hbelow
      rw [List.append_nil]
      exact .inr ⟨(Option.some.inj hbelow).symm, hshort⟩
    | cons name' rest =>
      obtain ⟨child, hchild⟩ := ht.exists_child hbelow
      refine .inl ⟨(name', child), ht.mem_children.2 hchild, rest, ?_⟩
      rw [List.append_assoc]
      rfl

/-! ## Enough steps -/

/-- The steps that suffice from a way on: for each level, its nodes and two more. -/
def needed (t : Tree) (w : Way) : Nat :=
  (t.nodes.length + 2) * (t.nodes.length + 1 - w.length)

theorem needed_concat (name : String) (h : here.length ≤ t.nodes.length) :
    needed t here = needed t (here ++ [name]) + (t.nodes.length + 2) := by
  have hlevels : t.nodes.length + 1 - here.length =
      (t.nodes.length + 1 - (here ++ [name]).length) + 1 := by
    rw [List.length_append, List.length_singleton]
    omega
  rw [needed, needed, hlevels, Nat.mul_succ]

/-- With so many steps, an entry is walked as it should. -/
def WalksEntry (t : Tree) (s : WalkSettings) (root : String) (here : Way) (fuel : Nat) : Prop :=
  ∀ ancestors above name names node, rootName root :: names = above ++ [name] →
    (∀ n ∈ above, n ∉ s.ignore) → t.at? (here ++ names) = some node →
    needed t (here ++ names) ≤ fuel →
    Walked t s root here (names <+: ·)
      (entry t s root fuel ancestors names name (place root names) (here ++ names) node)

/-- With so many steps, some entries of a directory are walked as they should. -/
def WalksEntries (t : Tree) (s : WalkSettings) (root : String) (here : Way) (fuel : Nat) : Prop :=
  ∀ ancestors names kids, (∀ n ∈ rootName root :: names, n ∉ s.ignore) →
    t.at? (here ++ names) = some .directory →
    (∀ kid ∈ kids, t.at? (here ++ names ++ [kid.1]) = some kid.2) → (kids.map Prod.fst).Nodup →
    (∀ kid ∈ kids, needed t (here ++ names ++ [kid.1]) + kids.length ≤ fuel) →
    Walked t s root here (fun ns => ∃ kid ∈ kids, names ++ [kid.1] <+: ns)
      (entries t s root fuel ancestors names (place root names) (here ++ names) kids)

section Steps

variable {fuel : Nat}

theorem follow_of_plain (ht : t.IsPlain) {w : Way} (h : t.at? w = some node) (path : String)
    (ancestors : List (String × Way)) : follow t s root path ancestors w node = .ok (w, node) := by
  cases node with
  | link target => exact absurd h (ht.not_link target)
  | file content => simp [follow]
  | directory => simp [follow]

theorem walksEntry_succ (ht : t.IsPlain) (ih : WalksEntries t s root here fuel) :
    WalksEntry t s root here (fuel + 1) := by
  intro ancestors above name names node hname habove hat hfuel
  have hnames (hkept : name ∉ s.ignore) : ∀ n ∈ rootName root :: names, n ∉ s.ignore := by
    rw [hname]
    intro n hn
    rcases List.mem_append.1 hn with hn | hn
    · exact habove n hn
    · exact List.mem_singleton.1 hn ▸ hkept
  rw [entry, follow_of_plain ht hat]
  simp only [bind, Except.bind, List.contains_iff_mem]
  cases node with
  | link target => exact absurd hat (ht.not_link target)
  | file content =>
    dsimp only
    split
    · rename_i hignored
      exact walked_ignored hname hignored
    · rename_i hkept
      exact walked_file ht ⟨hat, hnames hkept⟩
  | directory =>
    dsimp only
    split
    · rename_i hignored
      exact walked_ignored hname hignored
    · rename_i hkept
      split
      · rename_i hlong
        exact .long List.prefix_rfl ⟨hat, hnames hkept⟩ hlong
      · rename_i hshort
        refine walked_directory ht hat (Bool.eq_false_iff.2 hshort) ?_
        refine ih _ names _ (hnames hkept) hat (fun kid hkid => ht.mem_children.1 hkid)
          (ht.nodup_children _) fun kid _ => ?_
        have hneeded := needed_concat kid.1 (ht.length_le hat)
        have hkids := t.children_length_le (here ++ names)
        omega

theorem walksEntries_succ (hentry : WalksEntry t s root here fuel)
    (hentries : WalksEntries t s root here fuel) : WalksEntries t s root here (fuel + 1) := by
  intro ancestors names kids hnames hat hkids hnodup hfuel
  cases kids with
  | nil => exact .nothing (by simp)
  | cons kid rest =>
    obtain ⟨name, node⟩ := kid
    obtain ⟨hkid, hkids⟩ := List.forall_mem_cons.1 hkids
    obtain ⟨hname, hnodup⟩ := List.nodup_cons.1 hnodup
    obtain ⟨hfirst, hothers⟩ := List.forall_mem_cons.1 hfuel
    have henough : needed t (here ++ (names ++ [name])) ≤ fuel := by
      rw [← List.append_assoc]
      exact Nat.le_of_add_right_le (Nat.le_of_succ_le_succ hfirst)
    have hwalked := hentry ancestors (rootName root :: names) name (names ++ [name]) node rfl hnames
      (by rwa [← List.append_assoc]) henough
    have hwalked' := hentries ancestors names rest hnames hat hkids hnodup fun kid hkid => by
      have hkidfuel := hothers kid hkid
      rw [List.length_cons] at hkidfuel
      omega
    rw [place_concat, ← List.append_assoc] at hwalked
    have hdisjoint : ∀ ns, names ++ [name] <+: ns → ¬ ∃ kid ∈ rest, names ++ [kid.1] <+: ns := by
      rintro ns hns ⟨kid, hkid, hns'⟩
      have heq : names ++ [name] = names ++ [kid.1] :=
        (List.prefix_of_prefix_length_le hns hns' (by simp)).eq_of_length (by simp)
      rw [List.append_cancel_left_eq, List.cons.injEq] at heq
      exact hname (List.mem_map.2 ⟨kid, hkid, heq.1.symm⟩)
    rw [entries]
    refine (hwalked.append hwalked' hdisjoint).widen (fun ns hns => ?_) fun ns n hns _ => .inl ?_
    · exact (List.exists_mem_cons_iff _ _ _).2 hns
    · exact (List.exists_mem_cons_iff _ _ _).1 hns

theorem walks (ht : t.IsPlain) (s : WalkSettings) (root : String) (here : Way) (fuel : Nat) :
    WalksEntry t s root here fuel ∧ WalksEntries t s root here fuel := by
  induction fuel with
  | zero =>
    constructor
    · intro _ _ _ names _ _ _ hat hfuel
      have hlength := ht.length_le hat
      have hneeded := needed_concat "" hlength
      omega
    · intro _ _ kids _ _ _ _ hfuel
      cases kids with
      | nil => exact .nothing (by simp)
      | cons kid rest => exact absurd (hfuel kid List.mem_cons_self) (by simp)
  | succ fuel ih => exact ⟨walksEntry_succ ht ih.2, walksEntries_succ ih.1 ih.2⟩

end Steps

/-- **A walk comes to every file that is kept**, or to a directory whose path is too long. -/
theorem walked_found (ht : t.IsPlain) (s : WalkSettings) (hroot : Leads t root here) :
    Walked t s root here (fun _ => True) (found t s root) := by
  obtain ⟨node, hnode⟩ := hroot.exists_node
  have hat := Tree.at?_of_lead (ht.resolve_eq_ok hnode).2
  have hneeded : needed t (here ++ []) ≤ (t.nodes.length + 2) * (t.nodes.length + 2) :=
    Nat.mul_le_mul_left _ (by omega)
  have hwalked := (walks ht s root here _).1 [] [] (rootName root) [] node rfl nofun
    (by rwa [List.append_nil]) hneeded
  rw [List.append_nil, place_nil] at hwalked
  have hfound : Walked t s root here ([] <+: ·) (found t s root) := by
    rw [found, hnode]
    cases node with
    | link target => exact absurd hat (ht.not_link target)
    | file content => exact hwalked
    | directory => exact hwalked
  exact hfound.widen (fun _ _ => trivial) fun ns _ _ _ => .inl List.nil_prefix

end Tenancy.Walk
