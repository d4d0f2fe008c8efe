import Tenancy.Proofs.Config.Merging

/-!
# Proofs/Config/Defaults — the defaults are there twice

    defaults under the sources,  read   =   the sources,  read with what is read for nothing

What lies at the bottom of all sources is what is read where a setting is left out, so the bottom
does not matter (`Config.ofOverlays_nil`).  It does in one case: an empty table in the place of a
default is nothing over the default, and no setting without it (`Config.ofOverlays_hollow`).
-/

namespace Tenancy

theorem KeyPath.ofName_ne_nil (name : String) : KeyPath.ofName name ≠ [] := by
  rw [KeyPath.ofName]
  cases KeyPath.name? name.toList with
  | none => exact List.cons_ne_nil _ _
  | some s =>
    rw [Option.bind_some]
    cases KeyPath.stepsFrom? s.2.length s.2 <;> exact List.cons_ne_nil _ _

namespace Setting

variable {v w new x : Setting} {name : String} {ms ms' : List (String × Setting)}
  {a b : Option Setting}

/-! ## What putting in looks at -/

theorem put_congr (h : v.members = w.members) (name : String) (new : Setting) :
    v.put name new = w.put name new := by
  cases new with
  | table ms => rw [put_table, put_table, withMember, withMember, member?, member?, h]
  | _ => rw [put_of_leaf rfl, put_of_leaf rfl, withMember, withMember, h]

theorem putAll_congr (h : v.members = w.members) (hne : ms ≠ []) : putAll v ms = putAll w ms := by
  obtain ⟨⟨name, new⟩, rest, rfl⟩ := List.exists_cons_of_ne_nil hne
  rw [putAll, putAll, put_congr h]

/-- Only members and items are looked at on the way down a path. -/
theorem assign_congr {path : KeyPath} (hmembers : v.members = w.members)
    (hitems : v.items = w.items) (hne : path ≠ []) : assign new path v = assign new path w := by
  obtain ⟨step, rest, rfl⟩ := List.exists_cons_of_ne_nil hne
  cases step with
  | item index => rw [assign, assign, withItem, withItem, item?, item?, hitems]
  | member name =>
    cases rest with
    | nil => exact put_congr hmembers name new
    | cons step rest =>
      rw [assign, assign, withMember, withMember, member?, member?, hmembers] <;>
        exact List.cons_ne_nil step rest

/-! ## With and without something below -/

/-- **A relation between values at one place that survives whatever is put there**: over the first
of them and over the second. -/
structure Stable (R : Option Setting → Option Setting → Prop) : Prop where
  refl (a : Option Setting) : R a a
  putAll (ms : List (String × Setting)) {a b : Option Setting} (h : R a b) :
    R (some (putAll (a.getD (.table [])) ms)) (some (putAll (b.getD (.table [])) ms))
  assign (new : Setting) {path : KeyPath} (hne : path ≠ []) {a b : Option Setting} (h : R a b) :
    R (some (assign new path (a.getD .nothing))) (some (assign new path (b.getD .nothing)))

theorem stable_eq : Stable Eq where
  refl _ := rfl
  putAll _ _ _ h := by rw [h]
  assign _ _ _ _ _ h := by rw [h]

/-- A value that was not there, or was an empty table, where the second has a default. -/
inductive Bottom (x : Setting) : Option Setting → Option Setting → Prop
  | same (a : Option Setting) : Bottom x a a
  | absent : Bottom x none (some x)
  | hollow : Bottom x (some (.table [])) (some x)

theorem stable_bottom (hmembers : x.members = []) (hitems : x.items = []) : Stable (Bottom x) where
  refl := .same
  putAll ms a b h := by
    cases h with
    | same => exact .same _
    | absent | hollow =>
      cases ms with
      | nil => rw [Setting.putAll, Setting.putAll]; exact .hollow
      | cons m ms =>
        have hsame : Setting.putAll (.table []) (m :: ms) = Setting.putAll x (m :: ms) :=
          putAll_congr hmembers.symm (List.cons_ne_nil m ms)
        simp only [Option.getD_none, Option.getD_some, hsame]
        exact .same _
  assign new path hne a b h := by
    have hsame {v : Setting} (hv : v.members = []) (hv' : v.items = []) :
        Setting.assign new path v = Setting.assign new path x :=
      assign_congr (hv.trans hmembers.symm) (hv'.trans hitems.symm) hne
    cases h with
    | same => exact .same _
    | absent =>
      rw [Option.getD_none, Option.getD_some, hsame rfl rfl]
      exact .same _
    | hollow =>
      rw [Option.getD_some, Option.getD_some, hsame rfl rfl]
      exact .same _

/-- Names are bound to values that are related. -/
def Related (R : String → Option Setting → Option Setting → Prop) (v w : Setting) : Prop :=
  ∀ name, R name (v.members.lookup name) (w.members.lookup name)

/-- Tables with related members, the first of which may not be there. -/
inductive Under (R : String → Option Setting → Option Setting → Prop) :
    Option Setting → Option Setting → Prop
  | same (a : Option Setting) : Under R a a
  | table {a : Option Setting} {ms ms' : List (String × Setting)}
      (ha : a.getD (.table []) = .table ms) (h : Related R (.table ms) (.table ms')) :
      Under R a (some (.table ms'))

variable {R : String → Option Setting → Option Setting → Prop}

theorem related_withMember (h : Related R v w) {x y : Setting}
    (hxy : R (Text.lower name) (some x) (some y)) :
    Related R (v.withMember name x) (w.withMember name y) := by
  intro n
  rw [lookup_withMember, lookup_withMember]
  split
  · rename_i hn
    rw [hn]
    exact hxy
  · exact h n

theorem related_put (hR : ∀ name, Stable (R name)) (h : Related R v w) (name : String)
    (new : Setting) : Related R (v.put name new) (w.put name new) := by
  cases new with
  | table ms =>
    rw [put_table, put_table]
    exact related_withMember h ((hR _).putAll ms (h _))
  | _ =>
    rw [put_of_leaf rfl, put_of_leaf rfl]
    exact related_withMember h ((hR _).refl _)

theorem under_putAll (hR : ∀ name, Stable (R name)) (h : Related R (.table ms) (.table ms'))
    (new : List (String × Setting)) :
    Under R (some (putAll (.table ms) new)) (some (putAll (.table ms') new)) := by
  induction new generalizing ms ms' with
  | nil =>
    rw [putAll, putAll]
    exact .table rfl h
  | cons m new ih =>
    rw [putAll, putAll]
    have hput := related_put hR h m.1 m.2
    obtain ⟨below, hbelow⟩ := put_eq_withMember (.table ms) m.1 m.2
    obtain ⟨below', hbelow'⟩ := put_eq_withMember (.table ms') m.1 m.2
    rw [hbelow, hbelow'] at hput ⊢
    exact ih hput

theorem under_assign (hR : ∀ name, Stable (R name)) (h : Related R (.table ms) (.table ms'))
    {path : KeyPath} (hne : path ≠ []) :
    Under R (some (assign new path (.table ms))) (some (assign new path (.table ms'))) := by
  obtain ⟨step, rest, rfl⟩ := List.exists_cons_of_ne_nil hne
  cases step with
  | item index =>
    -- a table becomes a list of what is put in, whatever it was
    rw [assign, assign]
    exact .same _
  | member name =>
    cases rest with
    | nil => exact under_putAll hR h [(name, new)]
    | cons step rest =>
      rw [assign, assign]
      · exact .table rfl (related_withMember h ((hR _).assign new (List.cons_ne_nil _ _) (h _)))
      · exact List.cons_ne_nil step rest
      · exact List.cons_ne_nil step rest

theorem stable_under (hR : ∀ name, Stable (R name)) : Stable (Under R) where
  refl := .same
  putAll new a b h := by
    cases h with
    | same => exact .same _
    | table ha h =>
      rw [ha]
      exact under_putAll hR h new
  assign new path hne a b h := by
    cases h with
    | same => exact .same _
    | @table ms ms' ha h =>
      have hsame : assign new path (a.getD .nothing) = assign new path (.table ms) := by
        cases a with
        | none =>
          cases ha
          exact assign_congr rfl rfl hne
        | some v =>
          rw [← ha]
          rfl
      rw [hsame]
      exact under_assign hR h hne

theorem related_onto {R : Option Setting → Option Setting → Prop} (hR : Stable R)
    (h : R (some v) (some w)) (o : Overlay) :
    R (some (Overlay.onto v o)) (some (Overlay.onto w o)) := by
  induction o generalizing v w with
  | nil => exact h
  | cons m o ih => exact ih (hR.assign m.2 (KeyPath.ofName_ne_nil m.1) h)

/-! ## The defaults -/

/-- Two tables that differ in the bottom of some of their members. -/
def OverEntries (entries : List (String × Setting)) : Option Setting → Option Setting → Prop :=
  Under fun name => (entries.lookup name).elim Eq Bottom

/-- Two tables of tables that differ in the bottom of some of theirs. -/
def OverSections (sections : List (String × List (String × Setting))) :
    Option Setting → Option Setting → Prop :=
  Under fun name => (sections.lookup name).elim Eq OverEntries

theorem stable_elim {α : Type} {f : α → Option Setting → Option Setting → Prop}
    {l : List (String × α)} (h : ∀ e ∈ l, Stable (f e.2)) (name : String) :
    Stable ((l.lookup name).elim Eq f) := by
  cases hlookup : l.lookup name with
  | none => exact stable_eq
  | some y =>
    obtain ⟨before, after, rfl, -⟩ := List.lookup_eq_some_iff.1 hlookup
    exact h _ List.mem_append_cons_self

theorem stable_overSections {sections : List (String × List (String × Setting))}
    (h : ∀ s ∈ sections, ∀ e ∈ s.2, e.2.members = [] ∧ e.2.items = []) :
    Stable (OverSections sections) :=
  stable_under <| stable_elim fun s hs =>
    stable_under <| stable_elim fun e he => stable_bottom (h s hs e he).1 (h s hs e he).2

theorem overEntries_bottom (entries : List (String × Setting)) :
    OverEntries entries none (some (.table entries)) := by
  refine .table rfl fun name => ?_
  show (entries.lookup name).elim Eq Bottom none (entries.lookup name)
  cases entries.lookup name with
  | none => rfl
  | some x => exact .absent

theorem lookup_map {α β : Type} (f : α → β) (l : List (String × α)) (name : String) :
    (l.map fun e => (e.1, f e.2)).lookup name = (l.lookup name).map f := by
  induction l with
  | nil => rfl
  | cons e l ih =>
    rw [List.map_cons, lookup_cons, lookup_cons, ih]
    split <;> rfl

theorem overSections_bottom (sections : List (String × List (String × Setting))) :
    OverSections sections (some (.table []))
      (some (.table (sections.map fun s => (s.1, .table s.2)))) := by
  refine .table rfl fun name => ?_
  show (sections.lookup name).elim Eq OverEntries none
    ((sections.map fun s => (s.1, Setting.table s.2)).lookup name)
  rw [lookup_map]
  cases sections.lookup name with
  | none => rfl
  | some entries => exact overEntries_bottom entries

/-- The defaults, part by part. -/
def defaultSections : List (String × List (String × Setting)) :=
  [("namespaces", [("enabled", .flag false), ("default_order", .text "child_first")]),
    ("bridge", [("manifest_prefix", .text "META-INF/services/")]),
    ("logging", [("level", .text "info")])]

theorem ofName_defaults : Overlay.defaults.map (fun m => KeyPath.ofName m.1) =
    defaultSections.flatMap fun s => s.2.map fun e => [.member s.1, .member e.1] := by
  decide +kernel

theorem lower_defaults : ∀ s ∈ defaultSections,
    Text.lower s.1 = s.1 ∧ ∀ e ∈ s.2, Text.lower e.1 = e.1 := by
  simp only [defaultSections, List.forall_mem_cons]
  decide +kernel

theorem onto_defaults : Overlay.onto (.table []) Overlay.defaults =
    .table (defaultSections.map fun s => (s.1, .table s.2)) := by
  have hpaths := ofName_defaults
  have hnames := lower_defaults
  simp only [Overlay.defaults, defaultSections, List.map_cons, List.map_nil, List.flatMap_cons,
    List.flatMap_nil, List.cons_append, List.nil_append, List.cons.injEq, and_true,
    List.forall_mem_cons] at hpaths hnames
  obtain ⟨henabled, horder, hstart, hlevel⟩ := hpaths
  obtain ⟨hnamespaces, hbridge, hlogging, -⟩ := hnames
  have hflag (v : Setting) (name : String) (b : Bool) :
      v.put name (.flag b) = v.withMember name (.flag b) := put_of_leaf rfl
  have htext (v : Setting) (name t : String) :
      v.put name (.text t) = v.withMember name (.text t) := put_of_leaf rfl
  simp [Overlay.onto, Overlay.defaults, defaultSections, henabled, horder, hstart, hlevel,
    hnamespaces, hbridge, hlogging, assign, hflag, htext, withMember, rebind, member?, members,
    asTable?, lookup_cons]

theorem stable_defaults : Stable (OverSections defaultSections) := by
  refine stable_overSections ?_
  simp only [defaultSections, List.forall_mem_cons]
  exact ⟨⟨⟨rfl, rfl⟩, ⟨rfl, rfl⟩, nofun⟩, ⟨⟨rfl, rfl⟩, nofun⟩, ⟨⟨rfl, rfl⟩, nofun⟩, nofun⟩

/-- **What sources say over nothing and over the defaults**: the same, but for what is at the
bottom. -/
theorem overSections_onto (o : Overlay) :
    OverSections defaultSections (some (Overlay.onto (.table []) o))
      (some (Overlay.onto (Overlay.onto (.table []) Overlay.defaults) o)) := by
  rw [onto_defaults]
  exact related_onto stable_defaults (overSections_bottom defaultSections) o

/-! ## Reading -/

section Fields

variable {α : Type} {read : Setting → Option α} {absent : α}

/-- A default is read as nothing is. -/
theorem field?_bottom (h : Bottom x a b) (hread : read x = some absent)
    (hne : a ≠ some (.table [])) :
    Dialect.field? read (some absent) a = Dialect.field? read (some absent) b := by
  cases h with
  | same => rfl
  | absent => exact hread.symm
  | hollow => exact absurd rfl hne

/-- So is a table of defaults. -/
theorem field?_under {R : String → Option Setting → Option Setting → Prop} (h : Under R a b)
    (hempty : read (.table []) = some absent)
    (hread : ∀ ms ms', (∀ n, along [n] a = ms.lookup n) → Related R (.table ms) (.table ms') →
      read (.table ms) = read (.table ms')) :
    Dialect.field? read (some absent) a = Dialect.field? read (some absent) b := by
  cases h with
  | same => rfl
  | @table ms ms' ha h =>
    have hplace : ∀ n, along [n] a = ms.lookup n := fun n => by
      have hnone : (Setting.table []).members = [] := rfl
      rw [← along_getD n [] a hnone, ha]
      rfl
    rw [Dialect.field?, ← hread ms ms' hplace h]
    cases a with
    | none =>
      cases ha
      exact hempty.symm
    | some v =>
      rw [← ha]
      rfl

end Fields

theorem record?_table (fields : List String) (ms : List (String × Setting)) :
    dialect.record? fields (.table ms) = some (fields.map fun f => ms.lookup f) :=
  rfl

/-- A name without a default is bound to the same. -/
theorem lookup_eq {β : Type} {f : β → Option Setting → Option Setting → Prop}
    {l : List (String × β)} (h : Related (fun n => (l.lookup n).elim Eq f) (.table ms) (.table ms'))
    (name : String) (hname : l.lookup name = none) : ms.lookup name = ms'.lookup name := by
  have hmember : (l.lookup name).elim Eq f (ms.lookup name) (ms'.lookup name) := h name
  rwa [hname] at hmember

theorem field?_namespaces
    (h : OverEntries [("enabled", .flag false), ("default_order", .text "child_first")] a b)
    (henabled : along ["enabled"] a ≠ some (.table []))
    (horder : along ["default_order"] a ≠ some (.table [])) :
    Dialect.field? (NamespacesConfig.read dialect) (some {}) a =
      Dialect.field? (NamespacesConfig.read dialect) (some {}) b := by
  refine field?_under h rfl fun ms ms' hplace hrelated => ?_
  rw [hplace] at henabled horder
  have hflag : Dialect.field? dialect.flag? (some false) (ms.lookup "enabled") =
      Dialect.field? dialect.flag? (some false) (ms'.lookup "enabled") :=
    field?_bottom (hrelated "enabled") rfl henabled
  have hword : Dialect.field? (dialect.choiceOf? ResolutionOrder.ofWord?) (some .childFirst)
        (ms.lookup "default_order") =
      Dialect.field? (dialect.choiceOf? ResolutionOrder.ofWord?) (some .childFirst)
        (ms'.lookup "default_order") :=
    field?_bottom (hrelated "default_order") (by decide +kernel) horder
  have hrest := lookup_eq hrelated
  simp only [NamespacesConfig.read, record?_table, List.map_cons, List.map_nil, hflag, hword,
    hrest "materializer" rfl, hrest "namespaces" rfl]

theorem field?_bridge (h : OverEntries [("manifest_prefix", .text "META-INF/services/")] a b)
    (hstart : along ["manifest_prefix"] a ≠ some (.table [])) :
    Dialect.field? (BridgeSettings.read dialect) (some {}) a =
      Dialect.field? (BridgeSettings.read dialect) (some {}) b := by
  refine field?_under h rfl fun ms ms' hplace hrelated => ?_
  rw [hplace] at hstart
  have htext : Dialect.field? dialect.text? (some "META-INF/services/")
        (ms.lookup "manifest_prefix") =
      Dialect.field? dialect.text? (some "META-INF/services/") (ms'.lookup "manifest_prefix") :=
    field?_bottom (hrelated "manifest_prefix") rfl hstart
  have hrest := lookup_eq hrelated
  simp only [BridgeSettings.read, record?_table, List.map_cons, List.map_nil, htext,
    hrest "services" rfl]

theorem field?_logging (h : OverEntries [("level", .text "info")] a b)
    (hlevel : along ["level"] a ≠ some (.table [])) :
    Dialect.field? (LoggingSettings.read dialect) (some {}) a =
      Dialect.field? (LoggingSettings.read dialect) (some {}) b := by
  refine field?_under h rfl fun ms ms' hplace hrelated => ?_
  rw [hplace] at hlevel
  have htext : Dialect.field? dialect.text? (some "info") (ms.lookup "level") =
      Dialect.field? dialect.text? (some "info") (ms'.lookup "level") :=
    field?_bottom (hrelated "level") rfl hlevel
  have hrest := lookup_eq hrelated
  simp only [LoggingSettings.read, record?_table, List.map_cons, List.map_nil, htext,
    hrest "format" rfl, hrest "output" rfl, hrest "file" rfl, hrest "color" rfl,
    hrest "modules" rfl]

/-- Where the defaults are. -/
def defaultPlaces : List (List String) :=
  [["namespaces", "enabled"], ["namespaces", "default_order"], ["bridge", "manifest_prefix"],
    ["logging", "level"]]

/-- An empty table is in the place of a default. -/
def Hollow (v : Setting) : Prop :=
  ∃ place ∈ defaultPlaces, along place (some v) = some (.table [])

/-- The defaults below make no difference to what is read. -/
theorem read_eq (h : OverSections defaultSections (some v) (some w)) (hv : ¬ Hollow v) :
    Config.read dialect v = Config.read dialect w := by
  have hfull : ∀ place ∈ defaultPlaces, along place (some v) ≠ some (.table []) :=
    fun place hplace hempty => hv ⟨place, hplace, hempty⟩
  simp only [defaultPlaces, List.forall_mem_cons] at hfull
  obtain ⟨henabled, horder, hstart, hlevel, -⟩ := hfull
  cases h with
  | same => rfl
  | @table ms ms' ha h =>
    obtain rfl : v = .table ms := ha
    have hnamespaces := field?_namespaces (h "namespaces") henabled horder
    have hbridge := field?_bridge (h "bridge") hstart
    have hlogging := field?_logging (h "logging") hlevel
    have hextractor := lookup_eq h "extractor" rfl
    simp only [members, asTable?, Option.getD_some] at hnamespaces hbridge hlogging
    simp only [Config.read, record?_table, List.map_cons, List.map_nil, hnamespaces, hbridge,
      hlogging, hextractor]

/-- An empty table is neither a flag nor a text nor a word. -/
theorem read_hollow (h : Hollow v) : Config.read dialect v = none := by
  obtain ⟨place, hplace, hempty⟩ := h
  simp only [defaultPlaces, List.mem_cons, List.not_mem_nil, or_false] at hplace
  rcases hplace with rfl | rfl | rfl | rfl
  all_goals
    obtain ⟨sections, below, rfl, hsection, hbelow⟩ := exists_of_along hempty
    obtain ⟨entries, below', rfl, hentry, hbelow'⟩ := exists_of_along hbelow
    obtain rfl := Option.some.inj hbelow'
    simp only [Config.read, record?_table, List.map_cons, List.map_nil, hsection]
  · have hread : NamespacesConfig.read dialect (.table entries) = none := by
      simp only [NamespacesConfig.read, record?_table, List.map_cons, List.map_nil, hentry]
      rfl
    simp [Dialect.field?, hread]
  · have hread : NamespacesConfig.read dialect (.table entries) = none := by
      have hword : dialect.choiceOf? ResolutionOrder.ofWord? (.table []) = none := rfl
      simp [NamespacesConfig.read, record?_table, hentry, Dialect.field?, hword]
    simp [Dialect.field?, hread]
  · have hread : BridgeSettings.read dialect (.table entries) = none := by
      have htext : dialect.text? (.table []) = none := rfl
      simp [BridgeSettings.read, record?_table, hentry, Dialect.field?, htext]
    simp [Dialect.field?, hread]
  · have hread : LoggingSettings.read dialect (.table entries) = none := by
      simp only [LoggingSettings.read, record?_table, List.map_cons, List.map_nil, hentry]
      rfl
    simp [Dialect.field?, hread]

end Setting

namespace Config

variable {os : List Overlay}

/-- **Without the defaults the same is read**, unless an empty table is in the place of one. -/
theorem ofOverlays_nil
    (h : ¬ (Overlay.onto (.table []) (Overlay.merged os)).Hollow) :
    ofOverlays [] os = ofOverlays Overlay.defaults os := by
  have hread := Setting.read_eq (Setting.overSections_onto (Overlay.merged os)) h
  simp only [ofOverlays, ← hread]
  rfl

/-- If one is, there is no reading without them. -/
theorem ofOverlays_hollow (h : (Overlay.onto (.table []) (Overlay.merged os)).Hollow) :
    ofOverlays [] os = .error .shape := by
  have hnone : read Setting.dialect
      (Overlay.onto (Overlay.onto (.table []) []) (Overlay.merged os)) = none :=
    Setting.read_hollow h
  simp only [ofOverlays, hnone]

end Config

end Tenancy
