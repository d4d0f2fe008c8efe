import Tenancy.Logging.Install
import Tenancy.Proofs.Logging.Directive

/-!
# Proofs/Logging/Install — which settings are installed

    installed  ↔  (the level is off,  or nothing in it is torn and every module's directive is read)
                  and the file, if one is asked for, can be opened

Nobody asks here whether the settings are valid (`LoggingSettings.isOk_install`).  So of the faults
that `validate` knows only the empty path always stands in the way; a level that is not one of the
six words is taken for a target, and a module's level has to be one only for the reading of
directives, which knows more of them (`LoggingSettings.isOk_install_of_invalid`).
-/

namespace Tenancy

/-! ## The level -/

/-- No directive in the text breaks off inside a character. -/
def LogFilter.Untorn (s : String) : Prop :=
  ∀ p ∈ parts s, ∀ e, Directive.read p = .error e → e.uncaught? = none

theorem LogFilter.mem_readLeniently {s : String} {o : String × DirectiveFault} :
    o ∈ (readLeniently s).1 ↔ o.1 ∈ parts s ∧ Directive.read o.1 = .error o.2 := by
  obtain ⟨p, e⟩ := o
  simp only [readLeniently, List.mem_filterMap, List.mem_map]
  constructor
  · rintro ⟨-, ⟨q, hq, rfl⟩, hr⟩
    cases hread : Directive.read q with
    | ok d =>
      rw [hread] at hr
      cases hr
    | error f =>
      rw [hread] at hr
      cases hr
      exact ⟨hq, hread⟩
  · rintro ⟨hp, he⟩
    exact ⟨_, ⟨p, hp, rfl⟩, by rw [he]⟩

theorem LogFilter.find?_readLeniently {s : String} :
    ((readLeniently s).1.find? fun o => o.2.uncaught?.isSome) = none ↔ Untorn s := by
  rw [List.find?_eq_none]
  constructor
  · intro h p hp e he
    simpa using h (p, e) (mem_readLeniently.2 ⟨hp, he⟩)
  · intro h o ho
    obtain ⟨hp, he⟩ := mem_readLeniently.1 ho
    simp [h o.1 hp o.2 he]

/-- A text none of whose directives begins with a blank is not torn. -/
theorem LogFilter.untorn_of_head {s : String}
    (h : ∀ p ∈ parts s, ∀ c ∈ p.toList.head?, Text.isBlank c = false) : Untorn s :=
  fun p hp _ => Directive.uncaught?_of_read (h p hp)

namespace LoggingSettings

/-- The six words are not torn. -/
theorem untorn_of_mem_levels {level : String} (h : level ∈ levels) : LogFilter.Untorn level := by
  have hheads : ∀ w ∈ levels, ∀ p ∈ LogFilter.parts w,
      p.toList.head?.all (fun c => !Text.isBlank c) = true := by
    decide
  refine LogFilter.untorn_of_head fun p hp c hc => ?_
  have hhead := hheads level h p hp
  rw [Option.mem_def.1 hc] at hhead
  simpa using hhead

/-- The six words are levels for the reading of directives too. -/
theorem takenAsLevel_of_mem_levels {level : String} (h : level ∈ levels) :
    Directive.TakenAsLevel level.toList := by
  have hwords : ∀ w ∈ levels, (LevelBound.ofText? (String.ofList
      (w.toList.takeWhile (· != ',')))).isSome = true ∧
      (w.toList.dropWhile (· != ',')).tail = [] := by
    decide
  obtain ⟨hlevel, hend⟩ := hwords level h
  exact ⟨hlevel, hend ▸ nofun⟩

/-! ## Installing -/

theorem isOk_bind {ε α β : Type} {x : Except ε α} {f : α → Except ε β} {p : Prop}
    (h : ∀ a, (f a).isOk = true ↔ p) : (x >>= f).isOk = true ↔ x.isOk = true ∧ p := by
  cases x with
  | ok a => exact (h a).trans (and_iff_right rfl).symm
  | error e => exact iff_of_false nofun (fun h => nomatch h.1)

/-- The variables that count more than settings. -/
def overriding : List String :=
  ["NSLOAD_LOG", "NSLOAD_LOG_FORMAT", "NSLOAD_LOG_OUTPUT", "NSLOAD_LOG_MODULES"]

/-- Every directive about a module is read. -/
def ModulesRead (s : LoggingSettings) : Prop :=
  ∀ m ∈ s.modules.pairs, (Directive.read (m.1 ++ "=" ++ m.2)).isOk = true

/-- The file, if one is asked for, can be opened. -/
def Opens (s : LoggingSettings) (t : Files.Tree) : Prop :=
  s.output = .file → (s.openLog t).isOk = true

variable {env : List (String × String)} {s : LoggingSettings} {t : Files.Tree}

theorem isOk_addDirectives {f : LogFilter} {ds : List String} :
    (addDirectives f ds).isOk = true ↔ ∀ d ∈ ds, (Directive.read d).isOk = true := by
  induction ds generalizing f with
  | nil => exact iff_of_true rfl nofun
  | cons d ds ih =>
    rw [List.forall_mem_cons, addDirectives]
    cases Directive.read d with
    | ok r => exact ih.trans (and_iff_right rfl).symm
    | error e => exact iff_of_false nofun (fun h => nomatch h.1)

theorem isOk_ownFilter :
    (s.ownFilter env).2.isOk = true ↔
      s.level = "off" ∨ LogFilter.Untorn s.level ∧
        ∀ d ∈ s.directives env, (Directive.read d).isOk = true := by
  unfold ownFilter
  split
  · rename_i hoff
    exact iff_of_true rfl (.inl (eq_of_beq hoff))
  · rename_i hlevel
    have hoff : s.level ≠ "off" := by simpa using hlevel
    rw [or_iff_right hoff, ← LogFilter.find?_readLeniently,
      ← isOk_addDirectives (f := (LogFilter.readLeniently s.level).2)]
    dsimp only
    cases (LogFilter.readLeniently s.level).1.find? fun o => o.2.uncaught?.isSome with
    | none => exact (and_iff_right rfl).symm
    | some o => exact iff_of_false nofun (fun h => nomatch h.1)

section Unset

variable (henv : ∀ name ∈ overriding, env.lookup name = none)

include henv

theorem isOk_filter :
    (s.filter env).2.isOk = true ↔
      s.level = "off" ∨ LogFilter.Untorn s.level ∧ s.ModulesRead := by
  have hown : s.filter env = s.ownFilter env := by
    rw [filter, henv "NSLOAD_LOG" (by decide)]
    rfl
  have hdirectives : s.directives env = s.modules.pairs.map fun m => m.1 ++ "=" ++ m.2 := by
    rw [directives, henv "NSLOAD_LOG_MODULES" (by decide)]
    exact List.append_nil _
  rw [hown, isOk_ownFilter, hdirectives, List.forall_mem_map]
  rfl

theorem isOk_listener (f : LogFilter) : (s.listener env t f).isOk = true ↔ s.Opens t := by
  have hformat : overridden env "NSLOAD_LOG_FORMAT" LogFormat.read s.format = .ok s.format := by
    rw [overridden, henv "NSLOAD_LOG_FORMAT" (by decide)]
  have houtput : overridden env "NSLOAD_LOG_OUTPUT" LogOutput.read s.output = .ok s.output := by
    rw [overridden, henv "NSLOAD_LOG_OUTPUT" (by decide)]
  rw [listener, hformat, houtput, Opens]
  cases s.output with
  | file =>
    rw [forall_prop_of_true rfl]
    exact (isOk_bind (x := s.openLog t) fun r => iff_of_true rfl trivial).trans
      (and_iff_left trivial)
  | stdout => exact iff_of_true rfl nofun
  | stderr => exact iff_of_true rfl nofun

/-- **What installing looks at.**  Whether the settings are valid is not part of it. -/
theorem isOk_install :
    (s.install env t false).result.isOk = true ↔
      (s.level = "off" ∨ LogFilter.Untorn s.level ∧ s.ModulesRead) ∧ s.Opens t := by
  rw [← isOk_filter henv]
  refine isOk_bind fun f => ?_
  rw [← isOk_listener henv f]
  exact (isOk_bind fun r => iff_of_true rfl trivial).trans (and_iff_left trivial)

end Unset

theorem modulesRead_iff (h : ∀ m ∈ s.modules.pairs, Directive.Plain m.1.toList) :
    s.ModulesRead ↔ ∀ m ∈ s.modules.pairs, Directive.TakenAsLevel m.2.toList :=
  forall₂_congr fun m hm => Directive.isOk_read_iff (h m hm)

/-! ## What is valid and what is not -/

theorem levels_of_validate (h : s.validate = .ok ()) :
    s.level ∈ levels ∧ ∀ m ∈ s.modules.pairs, m.2 ∈ levels := by
  unfold validate at h
  split at h
  · cases h
  · rename_i hlevel
    split at h
    · cases h
    · rename_i hmodules
      exact ⟨by simpa using hlevel, by simpa using hmodules⟩

/-- What a fault says about the settings. -/
theorem fault_of_validate {issue : LoggingIssue} (h : s.validate = .error issue) :
    match issue with
    | .unknownLevel level => s.level = level ∧ level ∉ levels
    | .unknownModuleLevel level module =>
      s.level ∈ levels ∧ (module, level) ∈ s.modules.pairs ∧ level ∉ levels
    | .emptyFile => s.output = .file ∧ s.file.isEmpty = true := by
  unfold validate at h
  split at h
  · rename_i hlevel
    cases h
    exact ⟨rfl, by simpa using hlevel⟩
  · rename_i hlevel
    split at h
    · rename_i module level hfind
      cases h
      exact ⟨by simpa using hlevel, List.mem_of_find?_eq_some hfind,
        by simpa using List.find?_some hfind⟩
    · split at h
      · rename_i hfile
        cases h
        simpa using hfile
      · cases h

/-- **Valid settings are installed** if the names of modules are plain and the file can be
opened. -/
theorem isOk_install_of_valid (henv : ∀ name ∈ overriding, env.lookup name = none)
    (h : s.validate = .ok ()) (hplain : ∀ m ∈ s.modules.pairs, Directive.Plain m.1.toList) :
    (s.install env t false).result.isOk = true ↔ s.Opens t := by
  obtain ⟨hlevel, hmodules⟩ := levels_of_validate h
  have hread : s.ModulesRead := (modulesRead_iff hplain).2 fun m hm =>
    takenAsLevel_of_mem_levels (hmodules m hm)
  rw [isOk_install henv]
  exact and_iff_right (.inr ⟨untorn_of_mem_levels hlevel, hread⟩)

theorem not_isOk_openLog_of_empty (h : s.file.isEmpty = true) : ¬ (s.openLog t).isOk = true := by
  have hparts : Files.parts "" = [] := by decide
  rw [openLog, String.isEmpty_iff.1 h, hparts]
  exact nofun

/-- What it takes for settings with a fault to be installed. -/
def Passes (s : LoggingSettings) (t : Files.Tree) : LoggingIssue → Prop
  | .unknownLevel level => LogFilter.Untorn level ∧ s.ModulesRead ∧ s.Opens t
  | .unknownModuleLevel _ _ => (s.level = "off" ∨ s.ModulesRead) ∧ s.Opens t
  | .emptyFile => False

/-- **Settings that are not valid are refused for their faults in part only**:

* always for an empty path;
* for the level of a module unless the level itself is off, but only if a directive is not read; and
  where the names are plain a directive is read as soon as directives know the level;
* for the level itself never, if it is not torn; and it is not if no blank begins a directive of
  it. -/
theorem isOk_install_of_invalid (henv : ∀ name ∈ overriding, env.lookup name = none)
    {issue : LoggingIssue} (h : s.validate = .error issue) :
    ((s.install env t false).result.isOk = true ↔ s.Passes t issue) ∧
      ((∀ m ∈ s.modules.pairs, Directive.Plain m.1.toList) →
        (s.ModulesRead ↔ ∀ m ∈ s.modules.pairs, Directive.TakenAsLevel m.2.toList)) ∧
      ((∀ p ∈ LogFilter.parts s.level, ∀ c ∈ p.toList.head?, Text.isBlank c = false) →
        LogFilter.Untorn s.level) := by
  refine ⟨?_, modulesRead_iff, LogFilter.untorn_of_head⟩
  rw [isOk_install henv]
  have hfault := fault_of_validate h
  cases issue with
  | unknownLevel level =>
    obtain ⟨rfl, hlevel⟩ := hfault
    have hoff : s.level ≠ "off" := fun hoff => hlevel (hoff ▸ by decide)
    rw [or_iff_right hoff, and_assoc]
    rfl
  | unknownModuleLevel level module =>
    rw [and_iff_right (untorn_of_mem_levels hfault.1)]
    rfl
  | emptyFile =>
    obtain ⟨houtput, hfile⟩ := hfault
    exact iff_of_false (fun hopens => not_isOk_openLog_of_empty hfile (hopens.2 houtput)) id

/-- A module's level in capitals. -/
def shouting : LoggingSettings where
  modules := (∅ : Table String String).insert "nsload" "DEBUG"

/-- Settings that are not valid and are installed: directives know the level in capitals. -/
theorem isOk_install_shouting :
    (∀ name ∈ overriding, ([] : List (String × String)).lookup name = none) ∧
      shouting.validate = .error (.unknownModuleLevel "DEBUG" "nsload") ∧
      (shouting.install [] Files.Tree.empty false).result.isOk = true := by
  have henv : ∀ name ∈ overriding, ([] : List (String × String)).lookup name = none :=
    fun _ _ => rfl
  have hinvalid : shouting.validate = .error (.unknownModuleLevel "DEBUG" "nsload") := by decide
  have hpairs : shouting.modules.pairs = [("nsload", "DEBUG")] := by decide
  obtain ⟨hinstall, hread, -⟩ := isOk_install_of_invalid (t := Files.Tree.empty) henv hinvalid
  have hplain : ∀ m ∈ shouting.modules.pairs, Directive.Plain m.1.toList := by
    rw [hpairs, List.forall_mem_singleton]
    exact ⟨⟨'n', rfl, by decide +kernel⟩, by simp⟩
  have htaken : ∀ m ∈ shouting.modules.pairs, Directive.TakenAsLevel m.2.toList := by
    rw [hpairs, List.forall_mem_singleton]
    exact ⟨by decide, nofun⟩
  exact ⟨henv, hinvalid, hinstall.2 ⟨.inr ((hread hplain).2 htaken), nofun⟩⟩

/-- A level that is none of the six words is refused by `validate` only. -/
theorem isOk_install_loud :
    ({ level := "loud" } : LoggingSettings).validate = .error (.unknownLevel "loud") ∧
      (({ level := "loud" } : LoggingSettings).install [] Files.Tree.empty false).result.isOk =
        true := by
  decide +kernel

end LoggingSettings

end Tenancy
