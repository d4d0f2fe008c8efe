import Tenancy.Config.Overlay

/-!
# Proofs/Config/Merging — who is heard at a place

    o₁, …, oₙ  ⟶  at each place what the last of them says that is not silent there

A place is reached by names from the top.  An overlay that is silent at a place leaves it alone
(`Overlay.along_onto_of_silent`); one that says something there is heard, whatever lies below
(`Overlay.along_onto_of_says`).  So the last to say something is (`Overlay.along_layers`), and still
is once all of it is put over something else (`Overlay.along_merged`).
-/

namespace Tenancy

open Text (lower)

namespace Setting

variable {v w new x : Setting} {name n : String} {place : List String}
  {ms : List (String × Setting)}

/-! ## Members -/

theorem lookup_cons {α : Type} (key n : String) (v : α) (ms : List (String × α)) :
    ((key, v) :: ms).lookup n = if n = key then some v else ms.lookup n := by
  rw [List.lookup_cons]
  by_cases h : n = key
  · rw [if_pos h, beq_iff_eq.2 h]
  · rw [if_neg h, beq_false_of_ne h]

theorem lookup_map_rebind (ms : List (String × Setting)) (name n : String) (v : Setting) :
    (ms.map fun m => if m.1 == name then (name, v) else m).lookup n =
      if n = name then (ms.lookup name).map fun _ => v else ms.lookup n := by
  induction ms with
  | nil => simp
  | cons m ms ih =>
    obtain ⟨key, w⟩ := m
    by_cases hkey : key = name
    · by_cases hn : n = name <;> simp_all [lookup_cons]
    · by_cases hn : n = name <;> simp_all [lookup_cons, Ne.symm hkey]

/-- Rebinding binds the name, and no other. -/
theorem lookup_rebind (ms : List (String × Setting)) (name n : String) (v : Setting) :
    (rebind ms name v).lookup n = if n = name then some v else ms.lookup n := by
  rw [rebind]
  split
  · rename_i h
    obtain ⟨w, hw⟩ := Option.isSome_iff_exists.1 h
    rw [lookup_map_rebind, hw, Option.map_some]
  · rename_i h
    rw [List.lookup_append, lookup_cons]
    by_cases hn : n = name
    · rw [if_pos hn, if_pos hn, hn, Option.not_isSome_iff_eq_none.1 h, Option.none_or]
    · rw [if_neg hn, if_neg hn, List.lookup_nil, Option.or_none]

theorem lookup_withMember (v : Setting) (name n : String) (below : Setting) :
    (v.withMember name below).members.lookup n =
      if n = lower name then some below else v.members.lookup n :=
  lookup_rebind v.members (lower name) n below

theorem put_table (v : Setting) (name : String) (ms : List (String × Setting)) :
    v.put name (.table ms) = v.withMember name (putAll ((v.member? name).getD (.table [])) ms) := by
  rw [put]

theorem put_of_leaf (h : new.asTable? = none) : v.put name new = v.withMember name new := by
  cases new with
  | table ms => cases h
  | _ => exact put.eq_2 _ _ _ nofun

theorem put_eq_withMember (v : Setting) (name : String) (new : Setting) :
    ∃ below, v.put name new = v.withMember name below := by
  cases new with
  | table ms => exact ⟨_, put_table v name ms⟩
  | _ => exact ⟨_, put_of_leaf rfl⟩

theorem putAll_append (v : Setting) (ms ms' : List (String × Setting)) :
    putAll v (ms ++ ms') = putAll (putAll v ms) ms' := by
  induction ms generalizing v with
  | nil => rw [putAll, List.nil_append]
  | cons m ms ih => rw [List.cons_append, putAll, putAll, ih]

/-! ## Places -/

/-- **What is at a place**, from a value or from nothing. -/
def along : List String → Option Setting → Option Setting
  | [], v => v
  | name :: place, v => along place (v.bind fun v => v.members.lookup name)

theorem along_none (place : List String) : along place none = none := by
  induction place with
  | nil => rfl
  | cons name place ih => exact ih

/-- Below nothing there is as little as below a value without members. -/
theorem along_getD (n : String) (place : List String) (v : Option Setting)
    (h : w.members = []) : along (n :: place) (some (v.getD w)) = along (n :: place) v := by
  cases v with
  | none => rw [Option.getD_none, along, Option.bind_some, h]; rfl
  | some v => rfl

theorem along_withMember (v : Setting) (name n : String) (below : Setting) (place : List String) :
    along (n :: place) (some (v.withMember name below)) =
      if n = lower name then along place (some below) else along (n :: place) (some v) := by
  rw [along, Option.bind_some, lookup_withMember]
  split <;> rfl

/-- What is below something is a member of a table. -/
theorem exists_of_along (h : along (n :: place) (some v) = some x) :
    ∃ ms below, v = .table ms ∧ ms.lookup n = some below ∧ along place (some below) = some x := by
  rw [along, Option.bind_some] at h
  cases hlookup : v.members.lookup n with
  | none => rw [hlookup, along_none] at h; cases h
  | some below =>
    rw [hlookup] at h
    cases v with
    | table ms => exact ⟨ms, below, rfl, hlookup, h⟩
    | _ => cases hlookup

/-! ## Silence -/

/-- **A value that says nothing about a place**, put in at its beginning: it is a table in which
whatever goes by the first name of the place says nothing about the rest. -/
def Silent : List String → Setting → Prop
  | n :: place, .table ms => ∀ m ∈ ms, lower m.1 = n → Silent place m.2
  | _, _ => False

theorem Silent.exists_cons (h : Silent place new) :
    ∃ n rest ms, place = n :: rest ∧ new = .table ms ∧
      ∀ m ∈ ms, lower m.1 = n → Silent rest m.2 := by
  cases place with
  | nil => exact h.elim
  | cons n rest =>
    cases new with
    | table ms => exact ⟨n, rest, ms, rfl, rfl, h⟩
    | _ => exact h.elim

theorem along_putAll_of (hput : ∀ {name : String} {new : Setting},
      (lower name = n → Silent place new) → ∀ v : Setting,
        along (n :: place) (some (v.put name new)) = along (n :: place) (some v))
    (h : ∀ m ∈ ms, lower m.1 = n → Silent place m.2) (v : Setting) :
    along (n :: place) (some (putAll v ms)) = along (n :: place) (some v) := by
  induction ms generalizing v with
  | nil => rw [putAll]
  | cons m ms ih =>
    obtain ⟨hm, hms⟩ := List.forall_mem_cons.1 h
    rw [putAll, ih hms, hput hm]

/-- Putting in leaves alone what it says nothing about. -/
theorem along_put (h : lower name = n → Silent place new) (v : Setting) :
    along (n :: place) (some (v.put name new)) = along (n :: place) (some v) := by
  -- below the name it is again a matter of putting members in, one name further down the place
  induction place generalizing v name n new with
  | nil =>
    obtain ⟨below, hbelow⟩ := put_eq_withMember v name new
    rw [hbelow, along_withMember, if_neg fun hn => h hn.symm]
  | cons n' place ih =>
    by_cases hn : n = lower name
    · obtain ⟨_, _, ms, hplace, rfl, hms⟩ := (h hn.symm).exists_cons
      cases hplace
      rw [put_table, along_withMember, if_pos hn, along_putAll_of (fun h => ih h) hms,
        along_getD _ _ _ rfl, member?, ← hn]
      rfl
    · obtain ⟨below, hbelow⟩ := put_eq_withMember v name new
      rw [hbelow, along_withMember, if_neg hn]

theorem along_putAll (h : ∀ m ∈ ms, lower m.1 = n → Silent place m.2) (v : Setting) :
    along (n :: place) (some (putAll v ms)) = along (n :: place) (some v) :=
  along_putAll_of (fun h => along_put h) h v

/-- A value at the end of a path that says nothing about a place. -/
def SilentAt (new : Setting) : KeyPath → List String → Prop
  | [.member name], n :: place => lower name = n → Silent place new
  | .member name :: path, n :: place => lower name = n → SilentAt new path place
  | _, _ => False

theorem along_assign {path : KeyPath} (h : SilentAt new path place) (v : Setting) :
    along place (some (assign new path v)) = along place (some v) := by
  induction path generalizing v place with
  | nil => exact h.elim
  | cons step path ih =>
    cases step with
    | item index => cases place <;> exact h.elim
    | member name =>
      cases place with
      | nil => cases path <;> exact h.elim
      | cons n place =>
        cases path with
        | nil => exact along_put h v
        | cons step path =>
          rw [assign, along_withMember]
          · split
            · rename_i hn
              have hsilent := h hn.symm
              cases place with
              | nil => cases step <;> cases path <;> exact hsilent.elim
              | cons n' place =>
                rw [ih hsilent, along_getD _ _ _ rfl, member?, ← hn]
                rfl
            · rfl
          · exact List.cons_ne_nil step path

/-! ## Saying something -/

/-- **What a value says at a place**, put in at its beginning: it is there, and no later member
says anything about it. -/
inductive Says (x : Setting) : Setting → List String → Prop
  | leaf (h : x.asTable? = none) : Says x x []
  | member {before after : List (String × Setting)} {name : String} {new : Setting}
      {place : List String} (h : Says x new place)
      (hafter : ∀ m ∈ after, lower m.1 = lower name → Silent place m.2) :
      Says x (.table (before ++ (name, new) :: after)) (lower name :: place)

/-- What is put in is there, whatever was. -/
theorem along_put_of_says (h : Says x new place) (v : Setting) (name : String) :
    along (lower name :: place) (some (v.put name new)) = some x := by
  induction h generalizing v name with
  | leaf h => rw [put_of_leaf h, along_withMember, if_pos rfl, along]
  | member h hafter ih =>
    rw [put_table, along_withMember, if_pos rfl, putAll_append, putAll, along_putAll hafter, ih]

theorem Says.isLeaf (h : Says x new place) : x.asTable? = none := by
  induction h with
  | leaf h => exact h
  | member h hafter ih => exact ih

/-- What a value says at a place, put in at the end of a path. -/
inductive SaysAt (x new : Setting) : KeyPath → List String → Prop
  | last (name : String) {place : List String} (h : Says x new place) :
      SaysAt x new [.member name] (lower name :: place)
  | deeper (name : String) {step : KeyStep} {path : KeyPath} {place : List String}
      (h : SaysAt x new (step :: path) place) :
      SaysAt x new (.member name :: step :: path) (lower name :: place)

theorem SaysAt.exists_cons {path : KeyPath} (h : SaysAt x new path place) :
    ∃ n rest, place = n :: rest := by
  cases h <;> exact ⟨_, _, rfl⟩

theorem SaysAt.isLeaf {path : KeyPath} (h : SaysAt x new path place) : x.asTable? = none := by
  induction h with
  | last name h => exact h.isLeaf
  | deeper name h ih => exact ih

theorem along_assign_of_says {path : KeyPath} (h : SaysAt x new path place) (v : Setting) :
    along place (some (assign new path v)) = some x := by
  induction h generalizing v with
  | last name h => exact along_put_of_says h v name
  | deeper name h ih =>
    rw [assign, along_withMember, if_pos rfl, ih]
    exact List.cons_ne_nil _ _

end Setting

namespace Overlay

open Setting (along SilentAt SaysAt)

variable {o : Overlay} {os : List Overlay} {place : List String} {x : Setting}

/-! ## One overlay over another -/

def Silent (o : Overlay) (place : List String) : Prop :=
  ∀ m ∈ o, SilentAt m.2 (KeyPath.ofName m.1) place

/-- **What an overlay says at a place**: the last of its values that says anything about it. -/
def Says (o : Overlay) (place : List String) (x : Setting) : Prop :=
  ∃ before name new after, o = before ++ (name, new) :: after ∧
    SaysAt x new (KeyPath.ofName name) place ∧ Silent after place

theorem onto_append (v : Setting) (o o' : Overlay) : onto v (o ++ o') = onto (onto v o) o' :=
  List.foldl_append

theorem along_onto_of_silent (h : o.Silent place) (v : Setting) :
    along place (some (onto v o)) = along place (some v) := by
  induction o generalizing v with
  | nil => rfl
  | cons m o ih =>
    obtain ⟨hm, ho⟩ := List.forall_mem_cons.1 h
    exact (ih ho _).trans (Setting.along_assign hm v)

theorem along_onto_of_says (h : o.Says place x) (v : Setting) :
    along place (some (onto v o)) = some x := by
  obtain ⟨before, name, new, after, rfl, hnew, hafter⟩ := h
  rw [onto_append]
  exact (along_onto_of_silent hafter _).trans (Setting.along_assign_of_says hnew _)

/-- Where none says anything, what lies below them is left. -/
theorem along_layers_of_silent (h : ∀ o ∈ os, o.Silent place) (v : Setting) :
    along place (some (os.foldl onto v)) = along place (some v) := by
  induction os generalizing v with
  | nil => rfl
  | cons o os ih =>
    obtain ⟨ho, hos⟩ := List.forall_mem_cons.1 h
    exact (ih hos _).trans (along_onto_of_silent ho v)

/-- **The last overlay that says something about a place is heard there.** -/
theorem along_layers (os : List Overlay) {after : List Overlay} (h : o.Says place x)
    (hafter : ∀ o' ∈ after, o'.Silent place) (v : Setting) :
    along place (some ((os ++ o :: after).foldl onto v)) = some x := by
  rw [List.foldl_append, List.foldl_cons, along_layers_of_silent hafter, along_onto_of_says h]

end Overlay

/-! ## What was put together, over something else -/

namespace Setting

/-- On the way to the place there are names in small letters, with no others like them. -/
def Orderly : List String → Setting → Prop
  | [], _ => True
  | n :: place, v => lower n = n ∧ (v.members.map fun m => lower m.1).Nodup ∧
      ∀ below, v.members.lookup n = some below → Orderly place below

theorem Orderly.exists_member (h : Orderly (n :: place) v)
    (hx : along (n :: place) (some v) = some x) :
    ∃ before below after, v = .table (before ++ (n, below) :: after) ∧ lower n = n ∧
      (∀ m ∈ after, lower m.1 ≠ n) ∧ Orderly place below ∧ along place (some below) = some x := by
  obtain ⟨ms, below, rfl, hlookup, hbelow⟩ := exists_of_along hx
  obtain ⟨hn, hnodup, horderly⟩ := h
  obtain ⟨before, after, hms, -⟩ := List.lookup_eq_some_iff.1 hlookup
  have hms : ms = before ++ (n, below) :: after := hms
  refine ⟨before, below, after, by rw [hms], hn, fun m hm hname => ?_,
    horderly below hlookup, hbelow⟩
  simp only [members, asTable?, Option.getD_some, hms, List.map_append, List.map_cons, hn] at hnodup
  have hrest := (List.nodup_cons.1 (List.nodup_append.1 hnodup).2.1).1
  exact hrest (List.mem_map.2 ⟨m, hm, hname⟩)

/-- A value says what is found in it. -/
theorem says_of_along (hx : x.asTable? = none) (h : Orderly place v)
    (halong : along place (some v) = some x) : Says x v place := by
  induction place generalizing v with
  | nil =>
    obtain rfl := Option.some.inj halong
    exact .leaf hx
  | cons n place ih =>
    obtain ⟨before, below, after, rfl, hn, hafter, horderly, hbelow⟩ := h.exists_member halong
    have hmember : Says x (.table (before ++ (n, below) :: after)) (lower n :: place) :=
      .member (ih horderly hbelow) fun m hm hname => absurd (hname.trans hn) (hafter m hm)
    rwa [hn] at hmember

end Setting

namespace Overlay

open Setting (along SilentAt SaysAt Orderly)

variable {o : Overlay} {os : List Overlay} {place : List String} {x v : Setting}

/-- So does an overlay, if its names are no paths. -/
theorem says_members {n : String} (hx : x.asTable? = none) (h : Orderly (n :: place) v)
    (hnames : ∀ m ∈ v.members, KeyPath.ofName m.1 = [.member m.1])
    (halong : along (n :: place) (some v) = some x) : Says v.members (n :: place) x := by
  obtain ⟨before, below, after, rfl, hn, hafter, horderly, hbelow⟩ := h.exists_member halong
  obtain ⟨-, hname⟩ := List.forall_mem_append.1 hnames
  obtain ⟨hname, hrest⟩ := List.forall_mem_cons.1 hname
  refine ⟨before, n, below, after, rfl, ?_, fun m hm => ?_⟩
  · rw [hname]
    have hlast := SaysAt.last n (Setting.says_of_along hx horderly hbelow)
    rwa [hn] at hlast
  · rw [hrest m hm]
    exact fun heq => absurd heq (hafter m hm)

/-- **Through two merges**: the last to say something about a place is heard when what was put
together is put over something else. -/
theorem along_merged {after : List Overlay} (h : o.Says place x)
    (hafter : ∀ o' ∈ after, o'.Silent place)
    (horderly : Orderly place ((os ++ o :: after).foldl onto (.table [])))
    (hnames : ∀ m ∈ merged (os ++ o :: after), KeyPath.ofName m.1 = [.member m.1]) (v : Setting) :
    along place (some (onto v (merged (os ++ o :: after)))) = some x := by
  have halong := along_layers os h hafter (.table [])
  obtain ⟨_, name, new, _, -, hnew, -⟩ := h
  obtain ⟨n, rest, rfl⟩ := hnew.exists_cons
  exact along_onto_of_says (says_members hnew.isLeaf horderly hnames halong) v

end Overlay

end Tenancy
