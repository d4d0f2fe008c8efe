import Tenancy.Config.Load
import Tenancy.Proofs.Config.Defaults
import Tenancy.Proofs.Files.Plain
import Tenancy.Proofs.Text.Utf8

/-!
# Proofs/Config/Loading — the configuration of a directory

    defaults  <  nsload.toml  <  nsload.<NSLOAD_ENV>.toml  <  variables

What is loaded is what these say together, the last one that says something about a place being
heard there (`Config.load_layered`).  The defaults are read where nothing is said in any case, so
leaving them out makes no difference but in one case, and nothing at all, a single file and its
text are all loaded alike.
-/

namespace Tenancy.Config

open Files (Tree IsName parts)

variable {t : Tree} {env : Environment} {dir : String} {os : List Overlay}

/-! ## Layers -/

/-- What a file of the directory has to say: nothing, if it is not there. -/
def fileLayer (t : Tree) (path : String) : Except LoadFault Overlay :=
  if t.exists? path then optionalOverlay t path else .ok []

/-- What the file for the environment that is named has to say, if one is named. -/
def namedLayer (t : Tree) (env : Environment) (dir : String) : Except LoadFault Overlay :=
  match env.lookup "NSLOAD_ENV" with
  | some e => fileLayer t (inDirectory dir ("nsload." ++ e ++ ".toml"))
  | none => .ok []

/-- **The layers over the defaults**, the lowest first: the file for every use, the one for the
environment that is named, and the variables. -/
def layers (t : Tree) (env : Environment) (dir : String) : Except LoadFault (List Overlay) := do
  let base ← fileLayer t (inDirectory dir "nsload.toml")
  let named ← namedLayer t env dir
  let given ← (Overlay.ofEnvironment env).check
  .ok [base, named, given]

/-- An overlay without members adds nothing. -/
theorem ofOverlays_skip (bottom : Overlay) (before after : List Overlay) :
    ofOverlays bottom (before ++ [] :: after) = ofOverlays bottom (before ++ after) := by
  simp only [ofOverlays, Overlay.merged, List.foldl_append, List.foldl_cons]
  rfl

/-- It does not matter whether a file that is not there is left out or says nothing. -/
theorem bind_mapM_filter {α : Type} {f : List Overlay → Except LoadFault α}
    (hf : ∀ before after, f (before ++ [] :: after) = f (before ++ after)) (paths : List String) :
    ((paths.filter t.exists?).mapM (optionalOverlay t)).bind f =
      (paths.mapM (fileLayer t)).bind f := by
  induction paths generalizing f with
  | nil => rfl
  | cons path paths ih =>
    rw [List.mapM_cons, fileLayer]
    by_cases hthere : t.exists? path = true
    · rw [List.filter_cons_of_pos hthere, List.mapM_cons, if_pos hthere]
      cases optionalOverlay t path with
      | error e => rfl
      | ok o =>
        have hrest := ih (f := fun os => f (o :: os)) fun before after => hf (o :: before) after
        revert hrest
        cases (paths.filter t.exists?).mapM (optionalOverlay t) <;>
          cases paths.mapM (fileLayer t) <;> exact id
    · rw [List.filter_cons_of_neg hthere, if_neg hthere, ih hf]
      cases paths.mapM (fileLayer t) with
      | error e => rfl
      | ok os => exact (hf [] os).symm

theorem load_eq_files (t : Tree) (env : Environment) (dir : String) :
    load t env dir =
      ((("nsload.toml" :: ((env.lookup "NSLOAD_ENV").map fun e =>
        "nsload." ++ e ++ ".toml").toList).map (inDirectory dir)).mapM (fileLayer t)).bind
          fun files => (Overlay.ofEnvironment env).check.bind fun given =>
            ofOverlays Overlay.defaults (files ++ [given]) := by
  rw [← bind_mapM_filter]
  · rfl
  · intro before after
    cases (Overlay.ofEnvironment env).check with
    | error e => rfl
    | ok given =>
      show ofOverlays Overlay.defaults (before ++ [] :: after ++ [given]) = _
      rw [List.append_assoc, List.cons_append, ofOverlays_skip, ← List.append_assoc]
      rfl

theorem namedLayer_of_lookup {e : String} (h : env.lookup "NSLOAD_ENV" = some e) :
    namedLayer t env dir = fileLayer t (inDirectory dir ("nsload." ++ e ++ ".toml")) := by
  rw [namedLayer, h]

theorem namedLayer_of_unset (h : env.lookup "NSLOAD_ENV" = none) :
    namedLayer t env dir = .ok [] := by
  rw [namedLayer, h]

theorem load_eq (t : Tree) (env : Environment) (dir : String) :
    load t env dir = (layers t env dir).bind (ofOverlays Overlay.defaults) := by
  rw [load_eq_files, layers, List.map_cons, List.mapM_cons]
  cases fileLayer t (inDirectory dir "nsload.toml") with
  | error e => rfl
  | ok base =>
    cases hname : env.lookup "NSLOAD_ENV" with
    | none =>
      rw [namedLayer_of_unset hname]
      cases (Overlay.ofEnvironment env).check with
      | error e => rfl
      | ok given => exact (ofOverlays_skip Overlay.defaults [base] [given]).symm
    | some e =>
      rw [namedLayer_of_lookup hname, Option.map_some, Option.toList_some, List.map_singleton,
        List.mapM_cons]
      cases fileLayer t (inDirectory dir ("nsload." ++ e ++ ".toml")) with
      | error e => rfl
      | ok named => cases (Overlay.ofEnvironment env).check <;> rfl

/-! ## The file of a directory -/

theorem getLast?_parts_inDirectory (dir : String) {name : String} (h : IsName name) :
    (parts (inDirectory dir name)).getLast? = some name := by
  have hslash (before path : String) (hpath : path.toList = before.toList ++ '/' :: name.toList) :
      (parts path).getLast? = some name := by
    rw [Files.parts_append_slash hpath, h.parts_eq, List.getLast?_concat]
  rw [inDirectory]
  split
  · rename_i hdir
    rcases Bool.or_eq_true_iff.1 hdir with hempty | hlast
    · rw [String.isEmpty_iff.1 hempty, String.empty_append, h.parts_eq]
      rfl
    · obtain ⟨before, hbefore⟩ := List.getLast?_eq_some_iff.1 (beq_iff_eq.1 hlast)
      refine hslash (String.ofList before) _ ?_
      rw [String.toList_append, hbefore, String.toList_ofList, List.append_assoc]
      rfl
  · refine hslash dir _ ?_
    rw [String.toList_append, String.toList_append, List.append_assoc]
    rfl

theorem extensionOf_inDirectory (dir : String) :
    extensionOf (inDirectory dir "nsload.toml") = "toml" := by
  rw [extensionOf, getLast?_parts_inDirectory dir (by decide)]
  decide

variable {path text : String}

theorem resolve_of_read {content : Bytes} (h : t.read path = .ok content) :
    ∃ w, t.resolve true path = .ok (w, .file content) := by
  rw [Tree.read] at h
  split at h
  · rename_i w content' hresolve
    cases h
    exact ⟨w, hresolve⟩
  all_goals cases h

/-- A file whose name says that it is TOML is read as such. -/
theorem readFile?_of_read (hext : extensionOf path = "toml") (h : t.read path = .ok (utf8 text)) :
    readFile? t path = some (text, .toml) := by
  obtain ⟨w, hresolve⟩ := resolve_of_read h
  have hfile : t.isFile path = true := by rw [Tree.isFile, hresolve]
  have hfind : findFile? t path = some (path, .toml) := by
    rw [findFile?, if_pos hfile, hext]
    rfl
  have hdecode : Text.decode? (utf8 text) = some text.toList := Text.decode?_encode text.toList
  simp [readFile?, hfind, h, Except.toOption, hdecode]

theorem fileOverlay_of_read (hext : extensionOf path = "toml") (h : t.read path = .ok (utf8 text)) :
    fileOverlay t path = SourceFormat.toml.overlay text := by
  rw [fileOverlay, readFile?_of_read hext h]

theorem fileLayer_of_read (hext : extensionOf path = "toml") (h : t.read path = .ok (utf8 text)) :
    fileLayer t path = SourceFormat.toml.overlay text := by
  obtain ⟨w, hresolve⟩ := resolve_of_read h
  have hthere : t.exists? path = true := by rw [Tree.exists?, hresolve]; rfl
  rw [fileLayer, if_pos hthere, optionalOverlay, readFile?_of_read hext h]

/-- There is no file for the environment that is named, or none is named. -/
def Unnamed (t : Tree) (env : Environment) (dir : String) : Prop :=
  ∀ e ∈ env.lookup "NSLOAD_ENV", t.exists? (inDirectory dir ("nsload." ++ e ++ ".toml")) = false

theorem namedLayer_of_unnamed (h : Unnamed t env dir) : namedLayer t env dir = .ok [] := by
  cases hname : env.lookup "NSLOAD_ENV" with
  | none => exact namedLayer_of_unset hname
  | some e =>
    rw [namedLayer_of_lookup hname, fileLayer, h e hname]
    rfl

/-! ## Nothing, and one file -/

theorem ofOverlays_defaults_nil : ofOverlays Overlay.defaults [] = .ok {} := by
  refine (ofOverlays_nil ?_).symm
  rintro ⟨place, hplace, hempty⟩
  cases place with
  | nil => simp [Setting.defaultPlaces] at hplace
  | cons name place =>
    obtain ⟨ms, below, hms, hlookup, -⟩ := Setting.exists_of_along hempty
    cases hms
    cases hlookup

theorem load_nothing (hbase : t.exists? (inDirectory dir "nsload.toml") = false)
    (hnamed : Unnamed t env dir) (henv : Overlay.ofEnvironment env = []) :
    load t env dir = .ok {} := by
  have hskip := ofOverlays_skip Overlay.defaults
  have hlayers : layers t env dir = .ok [[], [], []] := by
    rw [layers, namedLayer_of_unnamed hnamed, henv, fileLayer, hbase]
    rfl
  have hfirst (os : List Overlay) :
      ofOverlays Overlay.defaults ([] :: os) = ofOverlays Overlay.defaults os := hskip [] os
  rw [load_eq, hlayers, Except.bind, hfirst, hfirst, hfirst, ofOverlays_defaults_nil]

theorem load_one (hbase : t.read (inDirectory dir "nsload.toml") = .ok (utf8 text))
    (hnamed : Unnamed t env dir) (henv : Overlay.ofEnvironment env = []) :
    load t env dir = ofToml text ∧
      loadFile t env (inDirectory dir "nsload.toml") = ofToml text := by
  have hskip := ofOverlays_skip Overlay.defaults
  have hext := extensionOf_inDirectory dir
  rw [load_eq, layers, namedLayer_of_unnamed hnamed, henv, fileLayer_of_read hext hbase, loadFile,
    fileOverlay_of_read hext hbase, henv, ofToml]
  cases SourceFormat.toml.overlay text with
  | error e => exact ⟨rfl, rfl⟩
  | ok o => exact ⟨(hskip [o] [[]]).trans (hskip [o] []), hskip [o] []⟩

/-! ## All together -/

/-- A file is there and can be read as a text, but is not written in its format. -/
def Malformed (t : Tree) (path : String) : Prop :=
  t.exists? path = true ∧ ∃ text format e,
    readFile? t path = some (text, format) ∧ format.overlay text = .error e

theorem fileLayer_eq_error : (∃ e, fileLayer t path = .error e) ↔ Malformed t path := by
  rw [fileLayer, Malformed, optionalOverlay]
  by_cases hthere : t.exists? path = true
  · rw [if_pos hthere]
    cases readFile? t path with
    | none => simp [hthere]
    | some file =>
      obtain ⟨text, format⟩ := file
      simp [hthere]
  · simp [hthere]

theorem namedLayer_eq_error : (∃ e, namedLayer t env dir = .error e) ↔
    ∃ e ∈ env.lookup "NSLOAD_ENV", Malformed t (inDirectory dir ("nsload." ++ e ++ ".toml")) := by
  rw [namedLayer]
  cases env.lookup "NSLOAD_ENV" with
  | none => simp
  | some e => simp [fileLayer_eq_error]

theorem bind_eq_error {α β : Type} {x : Except LoadFault α} {f : α → Except LoadFault β} :
    (∃ e, x.bind f = .error e) ↔ (∃ e, x = .error e) ∨ ∃ a, x = .ok a ∧ ∃ e, f a = .error e := by
  cases x <;> simp [Except.bind]

/-- **What layers say together, over the defaults.** -/
def settings (os : List Overlay) : Setting :=
  Overlay.onto (Overlay.onto (.table []) Overlay.defaults) (Overlay.merged os)

/-- The names in what layers say together are in small letters, once each and no paths, as far as
they are on the way to the place. -/
structure Tidy (os : List Overlay) (place : List String) : Prop where
  orderly : Setting.Orderly place (os.foldl Overlay.onto (.table []))
  names : ∀ m ∈ Overlay.merged os, KeyPath.ofName m.1 = [.member m.1]

/-- **Later layers go before earlier ones, and all of them before the defaults.** -/
structure Precedence (os : List Overlay) : Prop where
  /-- The last layer that says something about a place is heard. -/
  layer : ∀ before o after place x, os = before ++ o :: after → o.Says place x →
    (∀ o' ∈ after, o'.Silent place) →
    Setting.along place (some (os.foldl Overlay.onto (.table []))) = some x ∧
      (Tidy os place → Setting.along place (some (settings os)) = some x)
  /-- What they say together is heard, whatever the default is. -/
  heard : ∀ place x, (Overlay.merged os).Says place x →
    Setting.along place (some (settings os)) = some x
  /-- Where they say nothing there is the default, if there is one. -/
  bottom : ∀ place, (Overlay.merged os).Silent place →
    Setting.along place (some (settings os)) =
      Setting.along place (some (Overlay.onto (.table []) Overlay.defaults))

theorem precedence (os : List Overlay) : Precedence os where
  layer before o after place x hos h hafter := by
    subst hos
    exact ⟨Overlay.along_layers before h hafter _,
      fun htidy => Overlay.along_merged h hafter htidy.orderly htidy.names _⟩
  heard place x h := Overlay.along_onto_of_says h _
  bottom place h := Overlay.along_onto_of_silent h _

theorem ofOverlays_defaults (os : List Overlay) : ofOverlays Overlay.defaults os =
    (read Setting.dialect (settings os)).elim (.error .shape) .ok := by
  rw [ofOverlays, ← settings]
  cases read Setting.dialect (settings os) <;> rfl

/-- Loading fails where a layer is malformed, or what they say together is. -/
theorem load_eq_error : (∃ e, load t env dir = .error e) ↔
    Malformed t (inDirectory dir "nsload.toml") ∨
    (∃ e ∈ env.lookup "NSLOAD_ENV", Malformed t (inDirectory dir ("nsload." ++ e ++ ".toml"))) ∨
    (∃ e, (Overlay.ofEnvironment env).check = .error e) ∨
    ∃ os, layers t env dir = .ok os ∧ read Setting.dialect (settings os) = none := by
  have hlayers : (∃ e, layers t env dir = .error e) ↔
      (∃ e, fileLayer t (inDirectory dir "nsload.toml") = .error e) ∨
      (∃ e, namedLayer t env dir = .error e) ∨
      ∃ e, (Overlay.ofEnvironment env).check = .error e := by
    rw [layers]
    cases fileLayer t (inDirectory dir "nsload.toml") with
    | error e => simp [bind, Except.bind]
    | ok base =>
      cases namedLayer t env dir with
      | error e => simp [bind, Except.bind]
      | ok named => cases (Overlay.ofEnvironment env).check <;> simp [bind, Except.bind]
  have hshape (os : List Overlay) : (∃ e, ofOverlays Overlay.defaults os = .error e) ↔
      read Setting.dialect (settings os) = none := by
    rw [ofOverlays_defaults]
    cases read Setting.dialect (settings os) <;> simp
  rw [load_eq, bind_eq_error, hlayers, fileLayer_eq_error, namedLayer_eq_error]
  simp only [hshape, or_assoc]

/-- **A configuration is loaded in layers**: the file for every use, the file for the environment
that is named and the variables, each over those before it and all of them over the defaults.

* Loading fails where one of them that is there is malformed, or what they say together cannot be
  read; a file that is no text does not count.
* The defaults make no difference, since they are what is read where nothing is said, unless an
  empty table is in the place of one: without the defaults there is then no reading.
* So nothing gives the default configuration, and one file what its text gives, or the file itself
  when it is chosen. -/
theorem load_layered (t : Tree) (env : Environment) (dir : String) :
    (load t env dir = (layers t env dir).bind fun os =>
      (read Setting.dialect (settings os)).elim (.error .shape) .ok) ∧
    ((∃ e, load t env dir = .error e) ↔
      Malformed t (inDirectory dir "nsload.toml") ∨
      (∃ e ∈ env.lookup "NSLOAD_ENV",
        Malformed t (inDirectory dir ("nsload." ++ e ++ ".toml"))) ∨
      (∃ e, (Overlay.ofEnvironment env).check = .error e) ∨
      ∃ os, layers t env dir = .ok os ∧ read Setting.dialect (settings os) = none) ∧
    (∀ os, layers t env dir = .ok os → Precedence os ∧
      (¬ (Overlay.onto (.table []) (Overlay.merged os)).Hollow →
        ofOverlays [] os = load t env dir) ∧
      ((Overlay.onto (.table []) (Overlay.merged os)).Hollow →
        ofOverlays [] os = .error .shape)) ∧
    (Unnamed t env dir → Overlay.ofEnvironment env = [] →
      (t.exists? (inDirectory dir "nsload.toml") = false → load t env dir = .ok {}) ∧
      ∀ text, t.read (inDirectory dir "nsload.toml") = .ok (utf8 text) →
        load t env dir = ofToml text ∧
          loadFile t env (inDirectory dir "nsload.toml") = ofToml text) := by
  have hread := funext ofOverlays_defaults
  refine ⟨hread ▸ load_eq t env dir, load_eq_error,
    fun os hos => ⟨precedence os, fun h => ?_, fun h => ?_⟩,
    fun hnamed henv => ⟨fun hbase => ?_, fun text hbase => ?_⟩⟩
  · rw [load_eq, hos]
    exact ofOverlays_nil h
  · exact ofOverlays_hollow h
  · exact load_nothing hbase hnamed henv
  · exact load_one hbase hnamed henv

/-- An empty table in the place of a default, and a file that is no text: the first would be refused
without the defaults, the second does not count. -/
theorem load_layered_hollow :
    let hollow : Tree := ⟨[(["nsload.toml"], .file (utf8 "[logging]\nlevel = \x7b\x7d\n"))]⟩
    let unreadable : Tree := ⟨[(["nsload.toml"], .file [0xff])]⟩
    (load hollow [] ".").toOption.map (·.logging.level) = some "info" ∧
      (layers hollow [] ".").toOption.map (fun os => (ofOverlays [] os).toOption.isSome) =
        some false ∧
      unreadable.exists? "./nsload.toml" = true ∧
      (load unreadable [] ".").toOption.map (·.logging.level) = some "info" := by
  decide +kernel

end Tenancy.Config
