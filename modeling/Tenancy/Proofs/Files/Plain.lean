import Mathlib.Data.List.Induction
import Mathlib.Data.List.Nodup
import Mathlib.Data.List.Perm.Subperm
import Tenancy.Files.Tree

/-!
# Proofs/Files/Plain — trees of directories and files

    path  ++  name / name / …   leads   way of the path  ++  [name, name, …]

In a tree without links a path leads where its parts do, one after the other; the way that a path
leads to can then be taken further by names alone (`Files.Tree.IsPlain.resolve_append`).
-/

namespace Tenancy.Files

/-! ## Names -/

/-- **What an entry of a directory may be called.** -/
structure IsName (name : String) : Prop where
  ne_empty : name ≠ ""
  ne_dot : name ≠ "."
  ne_dots : name ≠ ".."
  no_slash : '/' ∉ name.toList
  no_mark : '\x00' ∉ name.toList
  short : isLongName name = false

instance : DecidablePred IsName := fun name =>
  decidable_of_iff (name ≠ "" ∧ name ≠ "." ∧ name ≠ ".." ∧ '/' ∉ name.toList ∧
      '\x00' ∉ name.toList ∧ isLongName name = false)
    ⟨fun ⟨h₁, h₂, h₃, h₄, h₅, h₆⟩ => ⟨h₁, h₂, h₃, h₄, h₅, h₆⟩,
      fun h => ⟨h.ne_empty, h.ne_dot, h.ne_dots, h.no_slash, h.no_mark, h.short⟩⟩

/-- A slash ends a part and begins one. -/
theorem parts_append_slash {path path' path'' : String}
    (h : path.toList = path'.toList ++ '/' :: path''.toList) :
    parts path = parts path' ++ parts path'' := by
  rw [parts, parts, parts, h, List.splitOn_append_cons_self, List.map_append, List.filter_append]

theorem IsName.parts_eq {name : String} (h : IsName name) : parts name = [name] := by
  simp [parts, List.splitOn_eq_singleton h.no_slash, h.ne_empty, h.ne_dot]

theorem checkPath_eq_ok {path : String} (h : checkPath path = .ok ()) :
    '\x00' ∉ path.toList ∧ path ≠ "" ∧ isLongPath path = false := by
  unfold checkPath at h
  split_ifs at h with hmark hempty hlong
  exact ⟨by simpa using hmark, by simpa using hempty, by simpa using hlong⟩

theorem checkPath_of_ne {path : String} (hmark : '\x00' ∉ path.toList) (hne : path ≠ "") :
    checkPath path = if isLongPath path then .error .nameTooLong else .ok () := by
  rw [checkPath, if_neg (by simpa using hmark), if_neg (by simpa using hne)]

/-! ## Trees -/

def Node.isLink : Node → Bool
  | .link _ => true
  | _ => false

namespace Tree

/-- **Every node stands once, under names, in a directory, and none is a link.** -/
structure IsPlain (t : Tree) : Prop where
  distinct : (t.nodes.map Prod.fst).Nodup
  named : ∀ n ∈ t.nodes, n.1 ≠ [] ∧ ∀ name ∈ n.1, IsName name
  parents : ∀ n ∈ t.nodes, t.at? n.1.dropLast = some .directory
  regular : ∀ n ∈ t.nodes, n.2.isLink = false

instance (t : Tree) : Decidable t.IsPlain :=
  decidable_of_iff ((t.nodes.map Prod.fst).Nodup ∧
      (∀ n ∈ t.nodes, n.1 ≠ [] ∧ ∀ name ∈ n.1, IsName name) ∧
      (∀ n ∈ t.nodes, t.at? n.1.dropLast = some .directory) ∧ ∀ n ∈ t.nodes, n.2.isLink = false)
    ⟨fun ⟨h₁, h₂, h₃, h₄⟩ => ⟨h₁, h₂, h₃, h₄⟩,
      fun h => ⟨h.distinct, h.named, h.parents, h.regular⟩⟩

variable {t : Tree} {here w : Way} {name : String} {node : Node}

@[simp] theorem at?_nil (t : Tree) : t.at? [] = some .directory := rfl

theorem mem_nodes_of_at? (h : t.at? w = some node) (hw : w ≠ []) : (w, node) ∈ t.nodes := by
  rw [at?, if_neg (by simpa using hw), List.lookup_eq_some_iff] at h
  obtain ⟨before, after, hnodes, -⟩ := h
  simp [hnodes]

/-- The entries of a directory are the nodes one name below it. -/
theorem map_children (t : Tree) (w : Way) : (t.children w).map (fun c => (w ++ [c.1], c.2)) =
    t.nodes.filter fun n => n.1 ≠ [] ∧ n.1.dropLast = w := by
  rw [children, List.map_filterMap, ← List.filterMap_eq_filter]
  refine List.filterMap_congr fun n _ => ?_
  obtain ⟨v, node⟩ := n
  rcases List.eq_nil_or_concat v with rfl | ⟨above, name, rfl⟩
  · simp [Option.guard]
  · by_cases h : above = w <;> simp [Option.guard, h]

theorem mem_children : (name, node) ∈ t.children w ↔ (w ++ [name], node) ∈ t.nodes := by
  have hinjective : Function.Injective fun c : String × Node => (w ++ [c.1], c.2) := by
    rintro ⟨n, d⟩ ⟨n', d'⟩ h
    simpa using h
  rw [← List.mem_map_of_injective hinjective, map_children]
  simp

theorem children_length_le (t : Tree) (w : Way) : (t.children w).length ≤ t.nodes.length :=
  List.length_filterMap_le _ _

namespace IsPlain

theorem at?_of_mem (ht : t.IsPlain) (h : (w, node) ∈ t.nodes) : t.at? w = some node := by
  have hw := (ht.named _ h).1
  rw [at?, if_neg (by simpa using hw), List.lookup_eq_some_iff]
  obtain ⟨before, after, hnodes⟩ := List.append_of_mem h
  have hdistinct := ht.distinct
  rw [hnodes, List.map_append, List.map_cons, List.nodup_append] at hdistinct
  refine ⟨before, after, hnodes, fun n hn => ?_⟩
  have hne := hdistinct.2.2 n.1 (List.mem_map_of_mem hn) w List.mem_cons_self
  simpa using Ne.symm hne

theorem mem_children (ht : t.IsPlain) :
    (name, node) ∈ t.children w ↔ t.at? (w ++ [name]) = some node := by
  rw [Tree.mem_children]
  exact ⟨ht.at?_of_mem, fun h => mem_nodes_of_at? h (by simp)⟩

theorem not_link (ht : t.IsPlain) (target : String) : t.at? w ≠ some (.link target) := by
  intro h
  cases w with
  | nil => cases h
  | cons name w => cases ht.regular _ (mem_nodes_of_at? h (by simp))

/-- What is above a node is a directory. -/
theorem above (ht : t.IsPlain) {rest : Way} (h : t.at? (w ++ rest) = some node)
    (hrest : rest ≠ []) : t.at? w = some .directory := by
  -- one name at a time, from below
  induction rest using List.reverseRec generalizing node with
  | nil => exact absurd rfl hrest
  | append_singleton rest name ih =>
    have hmem := mem_nodes_of_at? h (by simp)
    have hparent := ht.parents _ hmem
    rw [← List.append_assoc, List.dropLast_concat] at hparent
    by_cases hnil : rest = []
    · rwa [hnil, List.append_nil] at hparent
    · exact ih hparent hnil

/-- The first name on the way down to a node leads to one. -/
theorem exists_child (ht : t.IsPlain) {rest : Way} (h : t.at? (w ++ name :: rest) = some node) :
    ∃ child, t.at? (w ++ [name]) = some child := by
  rw [List.append_cons] at h
  by_cases hrest : rest = []
  · rw [hrest, List.append_nil] at h
    exact ⟨node, h⟩
  · exact ⟨.directory, ht.above h hrest⟩

theorem isName (ht : t.IsPlain) (h : t.at? w = some node) : ∀ name ∈ w, IsName name := by
  by_cases hw : w = []
  · simp [hw]
  · exact (ht.named _ (mem_nodes_of_at? h hw)).2

/-- A way is no longer than the tree has nodes: each of its beginnings is one. -/
theorem length_le (ht : t.IsPlain) (h : t.at? w = some node) : w.length ≤ t.nodes.length := by
  have hbeginnings : (List.range w.length).map (fun i => w.take (i + 1)) ⊆
      t.nodes.map Prod.fst := by
    intro v hv
    obtain ⟨i, hi, rfl⟩ := List.mem_map.1 hv
    rw [List.mem_range] at hi
    have hne : w.take (i + 1) ≠ [] := List.ne_nil_of_length_pos (by simp; omega)
    have hat : ∃ n, t.at? (w.take (i + 1)) = some n := by
      by_cases hend : w.drop (i + 1) = []
      · rw [List.drop_eq_nil_iff] at hend
        exact ⟨node, by rwa [List.take_of_length_le hend]⟩
      · rw [← List.take_append_drop (i + 1) w] at h
        exact ⟨_, ht.above h hend⟩
    obtain ⟨n, hn⟩ := hat
    exact List.mem_map_of_mem (mem_nodes_of_at? hn hne)
  have hnodup : ((List.range w.length).map fun i => w.take (i + 1)).Nodup := by
    refine List.Nodup.map_on (fun i hi j hj he => ?_) List.nodup_range
    have hlength := congrArg List.length he
    simp only [List.length_take, List.mem_range] at hlength hi hj
    omega
  simpa using (hnodup.subperm hbeginnings).length_le

theorem nodup_children (ht : t.IsPlain) (w : Way) : ((t.children w).map Prod.fst).Nodup := by
  have hways : ((t.children w).map fun c => w ++ [c.1]).Nodup := by
    have hfilter : ((t.nodes.filter fun n => n.1 ≠ [] ∧ n.1.dropLast = w).map Prod.fst).Nodup :=
      (List.filter_sublist.map Prod.fst).nodup ht.distinct
    rwa [← map_children t w, List.map_map] at hfilter
  refine List.Nodup.of_map (fun name => w ++ [name]) ?_
  rwa [List.map_map]

end IsPlain

/-! ## Where paths lead -/

/-- **Where the parts of a path lead** from a directory if there are no links. -/
def lead (t : Tree) : Way → List String → Except FileFault (Way × Node)
  | here, [] =>
    match t.at? here with
    | some n => .ok (here, n)
    | none => .error .notFound
  | here, p :: rest =>
    match t.at? here with
    | some .directory =>
      if p == ".." then lead t here.dropLast rest
      else if isLongName p then .error .nameTooLong
      else if (t.at? (here ++ [p])).isSome then lead t (here ++ [p]) rest
      else .error .notFound
    | some _ => .error .notDirectory
    | none => .error .notFound

theorem IsPlain.walkParts_eq_lead (ht : t.IsPlain) (followLast : Bool) {fuel : Nat} (links : Nat)
    (here : Way) {ps : List String} (hfuel : ps.length < fuel) :
    t.walkParts followLast fuel links here ps = t.lead here ps := by
  induction ps generalizing fuel here with
  | nil =>
    obtain ⟨fuel, rfl⟩ := Nat.exists_eq_succ_of_ne_zero (Nat.ne_of_gt hfuel)
    rfl
  | cons p rest ih =>
    obtain ⟨fuel, rfl⟩ := Nat.exists_eq_succ_of_ne_zero (Nat.ne_of_gt (Nat.zero_lt_of_lt hfuel))
    have hrest : rest.length < fuel := Nat.lt_of_succ_lt_succ hfuel
    rw [walkParts, lead]
    cases t.at? here with
    | none => rfl
    | some n =>
      cases n with
      | file content => rfl
      | link target => rfl
      | directory =>
        dsimp only
        rw [ih here.dropLast hrest]
        cases hnext : t.at? (here ++ [p]) with
        | none => rfl
        | some next =>
          cases next with
          | link target => exact absurd hnext (ht.not_link target)
          | file content => simp only [ih _ hrest, Option.isSome_some, if_true]
          | directory => simp only [ih _ hrest, Option.isSome_some, if_true]

/-- Whether links would be followed makes no difference. -/
theorem IsPlain.resolve_eq (ht : t.IsPlain) (followLast : Bool) (path : String) :
    t.resolve followLast path = (do
      checkPath path
      if isAbsolute path && !(parts path).isEmpty then .error .notFound
      else
        let (w, n) ← t.lead [] (parts path)
        if wantsDirectory path && n != .directory then .error .notDirectory else .ok (w, n)) := by
  have hwalk (follow : Bool) : t.walk follow [] (parts path) = t.lead [] (parts path) :=
    ht.walkParts_eq_lead follow 40 [] (by omega)
  rw [resolve, hwalk]

variable {p : String} {ps : List String}

theorem lead_nil_eq_ok (h : t.lead here [] = .ok (w, node)) :
    here = w ∧ t.at? w = some node := by
  rw [lead] at h
  split at h
  · rename_i n hn
    cases h
    exact ⟨rfl, hn⟩
  · cases h

/-- A part that is passed leads to the same place whatever follows it. -/
theorem lead_cons_eq_ok (h : t.lead here (p :: ps) = .ok (w, node)) :
    ∃ next, ∀ qs, t.lead here (p :: qs) = t.lead next qs := by
  rw [lead] at h
  split at h
  · rename_i hhere
    split at h
    · rename_i hdots
      exact ⟨here.dropLast, fun qs => by rw [lead, hhere]; exact if_pos hdots⟩
    · rename_i hdots
      split at h
      · cases h
      · rename_i hshort
        split at h
        · rename_i hnext
          refine ⟨here ++ [p], fun qs => ?_⟩
          rw [lead, hhere]
          simp only [hdots, hshort, hnext, if_true, if_false, Bool.false_eq_true]
        · cases h
  · cases h
  · cases h

theorem at?_of_lead (h : t.lead here ps = .ok (w, node)) : t.at? w = some node := by
  induction ps generalizing here with
  | nil => exact (lead_nil_eq_ok h).2
  | cons p rest ih =>
    obtain ⟨next, hnext⟩ := lead_cons_eq_ok h
    exact ih (hnext rest ▸ h)

/-- The rest of a path sets out from where its beginning leads. -/
theorem lead_append (h : t.lead here ps = .ok (w, node)) (qs : List String) :
    t.lead here (ps ++ qs) = t.lead w qs := by
  induction ps generalizing here with
  | nil => rw [(lead_nil_eq_ok h).1, List.nil_append]
  | cons p rest ih =>
    obtain ⟨next, hnext⟩ := lead_cons_eq_ok h
    rw [List.cons_append, hnext]
    exact ih (hnext rest ▸ h)

/-- Names lead to what stands under them. -/
theorem IsPlain.lead_names (ht : t.IsPlain) {names : List String}
    (h : t.at? (w ++ names) = some node) : t.lead w names = .ok (w ++ names, node) := by
  induction names generalizing w with
  | nil =>
    rw [List.append_nil] at h ⊢
    rw [lead, h]
  | cons name rest ih =>
    have hname := ht.isName h name (by simp)
    have hhere := ht.above h (by simp)
    have hnext : (t.at? (w ++ [name])).isSome = true := by
      obtain ⟨child, hchild⟩ := ht.exists_child h
      exact Option.isSome_of_eq_some hchild
    rw [List.append_cons] at h ⊢
    rw [lead, hhere]
    simp only [beq_iff_eq, hname.ne_dots, hname.short, hnext, if_false, if_true, ih h,
      Bool.false_eq_true]

theorem IsPlain.resolve_eq_ok (ht : t.IsPlain) {followLast : Bool} {path : String}
    (h : t.resolve followLast path = .ok (w, node)) :
    checkPath path = .ok () ∧ t.lead [] (parts path) = .ok (w, node) := by
  rw [ht.resolve_eq] at h
  cases hcheck : checkPath path with
  | error e => rw [hcheck] at h; cases h
  | ok u =>
    refine ⟨rfl, ?_⟩
    simp only [hcheck, bind, Except.bind] at h
    split at h
    · cases h
    · cases hlead : t.lead [] (parts path) with
      | error e => rw [hlead] at h; cases h
      | ok r =>
        simp only [hlead] at h
        split at h
        · cases h
        · cases h
          rfl

/-- **A path that goes on by names leads to what stands under them**, unless it is no path. -/
theorem IsPlain.resolve_append (ht : t.IsPlain) {followLast : Bool} {path path' : String}
    {names : List String} (h : t.resolve followLast path = .ok (w, node))
    (hparts : parts path' = parts path ++ names) (hrelative : isAbsolute path' = false)
    (hwants : wantsDirectory path' = false) {node' : Node}
    (hat : t.at? (w ++ names) = some node') (followLast' : Bool) :
    t.resolve followLast' path' = (checkPath path').map fun _ => (w ++ names, node') := by
  have hlead : t.lead [] (parts path') = .ok (w ++ names, node') := by
    rw [hparts, lead_append (ht.resolve_eq_ok h).2, ht.lead_names hat]
  rw [ht.resolve_eq, hrelative, hwants, hlead]
  cases checkPath path' <;> rfl

end Tree

end Tenancy.Files
