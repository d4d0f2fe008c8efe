import Tenancy.Logging.Directive
import Tenancy.Proofs.Text.Blank

/-!
# Proofs/Logging/Directive — which directives are read

    name=level  is read   ↔   level is a level, up to a comma with only blanks after it

Places are counted in the text without the blanks in front, but are cut out of the text with them.
Where there are none, every place that is cut at lies between two characters, and no character is
torn (`Directive.uncaught?_of_read`).  A name without marks is then read as it stands, and what
comes after the equals sign decides (`Directive.isOk_read_iff`).
-/

namespace Tenancy

namespace Text

/-! ## Bytes and blanks -/

/-- The number of bytes that characters take. -/
def size : List Char → Nat
  | [] => 0
  | c :: cs => c.utf8Size + size cs

@[simp] theorem size_cons (c : Char) (cs : List Char) : size (c :: cs) = c.utf8Size + size cs :=
  rfl

@[simp] theorem size_append (as bs : List Char) : size (as ++ bs) = size as + size bs := by
  induction as with
  | nil => exact (Nat.zero_add _).symm
  | cons c as ih => rw [List.cons_append, size_cons, size_cons, ih, Nat.add_assoc]

/-- The numbers of the blanks, in ranges. -/
def blankRanges : List (Nat × Nat) :=
  [(9, 13), (32, 32), (0x85, 0x85), (0xA0, 0xA0), (0x1680, 0x1680), (0x2000, 0x200A),
    (0x2028, 0x2029), (0x202F, 0x202F), (0x205F, 0x205F), (0x3000, 0x3000)]

theorem exists_blankRange {c : Char} (h : isBlank c = true) :
    ∃ b ∈ blankRanges, b.1 ≤ c.toNat ∧ c.toNat ≤ b.2 := by
  simp only [isBlank, Bool.or_eq_true, Bool.and_eq_true, decide_eq_true_eq, beq_iff_eq] at h
  simp only [blankRanges, List.exists_mem_cons_iff, List.not_mem_nil, false_and, exists_false,
    or_false]
  omega

/-- No letter and no number is blank. -/
theorem not_blank_of_isAlphanumeric {c : Char} (h : isAlphanumeric c = true) :
    isBlank c = false := by
  have hapart : alphanumericRanges.toList.all (fun r =>
      blankRanges.all fun b => r.2 < b.1 || b.2 < r.1) = true := by
    decide +kernel
  rw [isAlphanumeric, inRanges, ← Array.any_toList, List.any_eq_true] at h
  obtain ⟨r, hr, hc⟩ := h
  by_contra hblank
  obtain ⟨b, hb, hin⟩ := exists_blankRange (eq_true_of_ne_false hblank)
  have hclear := List.all_eq_true.1 (List.all_eq_true.1 hapart r hr) b hb
  simp only [Bool.and_eq_true, Bool.or_eq_true, decide_eq_true_eq] at hc hclear
  omega

end Text

namespace Directive

open Text (size)

/-! ## Cutting between characters -/

theorem splitAt_append (written : String) (here : Nat) (as bs : List Char) :
    splitAt written (here + size as) here (as ++ bs) = .ok (as, bs) := by
  induction as generalizing here with
  | nil =>
    cases bs with
    | nil => rfl
    | cons c bs => exact if_pos (Nat.le_refl here)
  | cons c as ih =>
    have hpos : 0 < c.utf8Size := c.utf8Size_pos
    rw [List.cons_append, splitAt, Text.size_cons, if_neg (by omega), if_neg (by omega),
      ← Nat.add_assoc, ih]
    rfl

theorem cutFrom_append {written : String} {as bs : List Char} (h : written.toList = as ++ bs) :
    cutFrom written (size as) = .ok (String.ofList bs) := by
  have hsplit := splitAt_append written 0 as bs
  rw [Nat.zero_add] at hsplit
  rw [cutFrom, h, hsplit]
  rfl

theorem cut_append {written : String} {as bs cs : List Char}
    (h : written.toList = as ++ (bs ++ cs)) :
    cut written (size as) (size (as ++ bs)) = .ok (String.ofList bs) := by
  have hsplit := splitAt_append written 0 as (bs ++ cs)
  rw [Nat.zero_add] at hsplit
  rw [cut, h, hsplit, Text.size_append]
  change (splitAt written (size as + size bs) (size as) (bs ++ cs)).bind _ = _
  rw [splitAt_append]
  rfl

/-! ## Nothing is torn -/

/-- Where the part under way began. -/
def Stage.begun? : Stage → Option Nat
  | .word b | .span b | .field b | .level b => some b
  | .start | .afterFields | .afterSpan | .complete => none

/-- The part under way began between two of the characters before. -/
def Stage.InPlace (before : List Char) (stage : Stage) : Prop :=
  ∀ b ∈ stage.begun?, ∃ as bs, before = as ++ bs ∧ b = size as

/-- What a step gives is in place, and what it fails with is answered for. -/
def Stage.Sound (before : List Char) : Except DirectiveFault (Directive × Stage) → Prop
  | .ok r => r.2.InPlace before
  | .error e => e.uncaught? = none

theorem Stage.inPlace_of_begun {before : List Char} {stage : Stage}
    (h : stage.begun? = some (size before)) : stage.InPlace before := by
  intro b hb
  rw [h, Option.mem_some] at hb
  exact ⟨before, [], (List.append_nil before).symm, hb.symm⟩

theorem Stage.InPlace.append {before : List Char} {stage : Stage} (h : stage.InPlace before)
    (cs : List Char) : stage.InPlace (before ++ cs) := by
  intro b hb
  obtain ⟨as, bs, rfl, rfl⟩ := h b hb
  exact ⟨as, bs ++ cs, List.append_assoc .., rfl⟩

theorem Stage.InPlace.exists_cut {written : String} {before rest : List Char} {stage : Stage}
    (h : stage.InPlace before) (hw : written.toList = before ++ rest) {b : Nat}
    (hb : b ∈ stage.begun?) : ∃ w, cut written b (size before) = .ok w := by
  obtain ⟨as, bs, rfl, rfl⟩ := h b hb
  exact ⟨_, cut_append (hw.trans (List.append_assoc ..))⟩

theorem Stage.InPlace.exists_cutFrom {written : String} {before rest : List Char} {stage : Stage}
    (h : stage.InPlace before) (hw : written.toList = before ++ rest) {b : Nat}
    (hb : b ∈ stage.begun?) : ∃ w, cutFrom written b = .ok w := by
  obtain ⟨as, bs, rfl, rfl⟩ := h b hb
  exact ⟨_, cutFrom_append (hw.trans (List.append_assoc ..))⟩

theorem uncaught?_of_withLevel {d : Directive} {w : String} {e : DirectiveFault}
    (h : d.withLevel w = .error e) : e.uncaught? = none := by
  unfold withLevel at h
  split at h
  · cases h
  · split at h
    · cases h
    · cases h
      rfl

theorem uncaught?_of_checkValue {w : String} {e : DirectiveFault} (h : checkValue w = .error e) :
    e.uncaught? = none := by
  unfold checkValue at h
  split at h
  · cases h
  · cases hcheck : Pattern.check w with
    | ok u =>
      rw [hcheck] at h
      cases h
    | error f =>
      rw [hcheck] at h
      cases h
      rfl

theorem uncaught?_of_withField {d : Directive} {w : String} {e : DirectiveFault}
    (h : d.withField w = .error e) : e.uncaught? = none := by
  unfold withField at h
  split at h
  · cases h
    rfl
  · cases h
    rfl
  · cases h
  · rename_i name value rest _
    cases hvalue : checkValue (String.ofList value) with
    | ok u =>
      rw [hvalue] at h
      cases h
    | error f =>
      rw [hvalue] at h
      cases h
      exact uncaught?_of_checkValue hvalue

theorem Stage.sound_map {before : List Char} {read : Except DirectiveFault Directive}
    {stage : Stage} (hread : ∀ e, read = .error e → e.uncaught? = none)
    (h : stage.InPlace before) : Sound before (read.map fun d => (d, stage)) := by
  cases read with
  | ok d => exact h
  | error e => exact hread e rfl

/-- **A step keeps its places between characters.** -/
theorem sound_step {written : String} {before rest : List Char} {c : Char} {stage : Stage}
    (hw : written.toList = before ++ c :: rest) (h : stage.InPlace before) (d : Directive) :
    Stage.Sound (before ++ [c]) (step written d (size before) c stage) := by
  have hpast : ∀ {mark : Char}, mark.utf8Size = 1 → (c == mark) = true →
      size before + 1 = size (before ++ [c]) := by
    intro mark hmark hc
    rw [Text.size_append, eq_of_beq hc, Text.size_cons, hmark]
    rfl
  cases stage with
  | start =>
    simp only [step]
    -- the table of letters is long, and no case depends on what is in it
    generalize Text.isAlphanumeric c = letter
    split
    · exact Stage.inPlace_of_begun (congrArg some (hpast rfl ‹_›))
    · split
      · exact Stage.InPlace.append (Stage.inPlace_of_begun rfl) [c]
      · rfl
  | word b =>
    obtain ⟨w, hword⟩ := h.exists_cut hw rfl
    obtain ⟨all, hall⟩ := h.exists_cutFrom hw rfl
    simp only [step, hword, hall]
    split
    · exact Stage.inPlace_of_begun (congrArg some (hpast rfl ‹_›))
    · split
      · exact Stage.inPlace_of_begun (congrArg some (hpast rfl ‹_›))
      · split
        · exact nofun
        · exact h.append [c]
  | span b =>
    obtain ⟨w, hword⟩ := h.exists_cut hw rfl
    simp only [step, hword]
    split
    · exact nofun
    · split
      · exact Stage.inPlace_of_begun (congrArg some (hpast rfl ‹_›))
      · exact h.append [c]
  | field b =>
    obtain ⟨w, hword⟩ := h.exists_cut hw rfl
    simp only [step, hword]
    split
    · exact Stage.sound_map (fun e => uncaught?_of_withField) nofun
    · split
      · exact Stage.sound_map (fun e => uncaught?_of_withField)
          (Stage.inPlace_of_begun (congrArg some (hpast rfl ‹_›)))
      · exact h.append [c]
  | afterFields =>
    simp only [step]
    split
    · exact nofun
    · rfl
  | afterSpan =>
    simp only [step]
    split
    · exact Stage.inPlace_of_begun (congrArg some (hpast rfl ‹_›))
    · rfl
  | level b =>
    obtain ⟨w, hword⟩ := h.exists_cut hw rfl
    simp only [step, hword]
    split
    · exact Stage.sound_map (fun e => uncaught?_of_withLevel) nofun
    · exact h.append [c]
  | complete => rfl

theorem uncaught?_of_readFrom {written : String} {before rest trail : List Char} {stage : Stage}
    {d : Directive} {e : DirectiveFault} (hw : written.toList = before ++ (rest ++ trail))
    (h : stage.InPlace before) (he : readFrom written d stage (size before) rest = .error e) :
    e.uncaught? = none := by
  induction rest generalizing before stage d with
  | nil =>
    cases stage with
    | word b =>
      obtain ⟨w, hword⟩ := h.exists_cutFrom hw rfl
      rw [readFrom, hword] at he
      cases he
    | level b =>
      obtain ⟨w, hword⟩ := h.exists_cutFrom hw rfl
      rw [readFrom, hword] at he
      exact uncaught?_of_withLevel he
    | afterSpan | complete => cases he
    | start | span b | field b | afterFields =>
      cases he
      rfl
  | cons c rest ih =>
    have hsound := sound_step hw h d
    rw [readFrom] at he
    split at he
    · rename_i d' stage' hstep
      rw [hstep] at hsound
      have hsize : size before + c.utf8Size = size (before ++ [c]) := by
        rw [Text.size_append, Text.size_cons]
        rfl
      rw [hsize] at he
      exact ih (by rw [hw]; simp) hsound he
    · rename_i f hstep
      cases he
      rw [hstep] at hsound
      exact hsound

/-- **A text that does not begin with a blank is read without a tear.** -/
theorem uncaught?_of_read {s : String} (h : ∀ c ∈ s.toList.head?, Text.isBlank c = false)
    {e : DirectiveFault} (he : read s = .error e) : e.uncaught? = none := by
  obtain ⟨trail, htrail⟩ : Text.trimEnd s.toList <+: s.toList := List.rdropWhile_prefix _ _
  have hw : s.toList = [] ++ (Text.trim s.toList ++ trail) := by
    rw [Text.trim_of_head h, htrail, List.nil_append]
  have hstart : Stage.start.InPlace [] := nofun
  exact uncaught?_of_readFrom hw hstart he

/-! ## A name and a level -/

/-- A name that is read as it stands: it begins as a word does, and no mark ends it. -/
structure Plain (m : List Char) : Prop where
  head : ∃ c ∈ m.head?, (Text.isAlphanumeric c || ['-', ':', '_'].contains c) = true
  marks : ∀ c ∈ m, c ≠ '=' ∧ c ≠ '[' ∧ c ≠ ','

/-- What may come after the equals sign: a level, its number, its name in letters of any size or
nothing at all; and after a comma nothing but blanks. -/
def TakenAsLevel (l : List Char) : Prop :=
  (LevelBound.ofText? (String.ofList (l.takeWhile (· != ',')))).isSome = true ∧
    Text.Blanks (l.dropWhile (· != ',')).tail

theorem isOk_withLevel (d : Directive) (w : String) :
    (d.withLevel w).isOk = (LevelBound.ofText? w).isSome := by
  unfold withLevel
  split
  · rename_i hw
    rw [String.isEmpty_iff.1 hw]
    rfl
  · cases LevelBound.ofText? w <;> rfl

section Reading

variable {written : String} {d : Directive} {b : Nat}

theorem readFrom_cons {i : Nat} {c : Char} {stage : Stage} {r : Directive × Stage}
    (h : step written d i c stage = .ok r) (rest : List Char) :
    readFrom written d stage i (c :: rest) = readFrom written r.1 r.2 (i + c.utf8Size) rest := by
  rw [readFrom, h]

/-- Characters that leave the stage as it is are passed over. -/
theorem readFrom_append {stage : Stage} {cs : List Char}
    (h : ∀ c ∈ cs, ∀ i, step written d i c stage = .ok (d, stage)) (i : Nat) (rest : List Char) :
    readFrom written d stage i (cs ++ rest) = readFrom written d stage (i + size cs) rest := by
  induction cs generalizing i with
  | nil => rfl
  | cons c cs ih =>
    obtain ⟨hc, hcs⟩ := List.forall_mem_cons.1 h
    rw [List.cons_append, readFrom_cons (hc i), Text.size_cons, ← Nat.add_assoc]
    exact ih hcs _

theorem readFrom_word {m : List Char} (h : ∀ c ∈ m, c ≠ '=' ∧ c ≠ '[' ∧ c ≠ ',') (i : Nat)
    (rest : List Char) :
    readFrom written d (.word b) i (m ++ rest) =
      readFrom written d (.word b) (i + size m) rest := by
  refine readFrom_append (fun c hc i => ?_) i rest
  obtain ⟨heq, hbracket, hcomma⟩ := h c hc
  simp only [step, beq_iff_eq, heq, hbracket, hcomma, if_false]

theorem readFrom_level {w : List Char} (h : ∀ c ∈ w, c ≠ ',') (i : Nat) (rest : List Char) :
    readFrom written d (.level b) i (w ++ rest) =
      readFrom written d (.level b) (i + size w) rest := by
  refine readFrom_append (fun c hc i => ?_) i rest
  simp only [step, beq_iff_eq, h c hc, if_false]

theorem isOk_readFrom_complete (i : Nat) (rest : List Char) :
    (readFrom written d .complete i rest).isOk = rest.isEmpty := by
  cases rest <;> rfl

variable {before : List Char}

/-- Without a comma everything after the equals sign is the level, blanks at the end included. -/
theorem isOk_readFrom_whole {l : List Char} (hw : written.toList = before ++ l)
    (h : ∀ c ∈ l, c ≠ ',') :
    (readFrom written d (.level (size before)) (size before) (Text.trimEnd l)).isOk =
      (LevelBound.ofText? (String.ofList l)).isSome := by
  have hend : ∀ c ∈ Text.trimEnd l, c ≠ ',' := fun c hc =>
    h c ((List.rdropWhile_prefix Text.isBlank l).subset hc)
  have hlevel : readFrom written d (.level (size before)) (size before) (Text.trimEnd l) =
      d.withLevel (String.ofList l) := by
    rw [← List.append_nil (Text.trimEnd l), readFrom_level hend, readFrom, cutFrom_append hw]
    rfl
  rw [hlevel, isOk_withLevel]

/-- A comma ends the level, and nothing may come after it. -/
theorem isOk_readFrom_cut {w r : List Char} (hw : written.toList = before ++ (w ++ ',' :: r))
    (h : ∀ c ∈ w, c ≠ ',') :
    (readFrom written d (.level (size before)) (size before) (Text.trimEnd (w ++ ',' :: r))).isOk =
      ((LevelBound.ofText? (String.ofList w)).isSome && (Text.trimEnd r).isEmpty) := by
  have hcut : cut written (size before) (size (before ++ w)) = .ok (String.ofList w) :=
    cut_append hw
  have hstep : step written d (size (before ++ w)) ',' (.level (size before)) =
      (d.withLevel (String.ofList w)).map fun d => (d, .complete) := by
    simp only [step, hcut, beq_self_eq_true, if_true]
    rfl
  rw [Text.trimEnd_append_cons w (by decide), readFrom_level h, readFrom, ← Text.size_append,
    hstep, ← isOk_withLevel d]
  cases d.withLevel (String.ofList w) with
  | ok d => exact isOk_readFrom_complete ..
  | error e => rfl

/-- **What comes after the equals sign is taken if it is a level.** -/
theorem isOk_readFrom_level {l : List Char} (hw : written.toList = before ++ l) :
    (readFrom written d (.level (size before)) (size before) (Text.trimEnd l)).isOk = true ↔
      TakenAsLevel l := by
  have hfree : ∀ c ∈ l.takeWhile (· != ','), c ≠ ',' := fun c hc =>
    bne_iff_ne.1 (List.mem_takeWhile_imp (p := (· != ',')) hc)
  have hsplit := List.takeWhile_append_dropWhile (p := (· != ',')) (l := l)
  unfold TakenAsLevel
  cases hrest : l.dropWhile (· != ',') with
  | nil =>
    rw [hrest, List.append_nil] at hsplit
    rw [hsplit] at hfree ⊢
    rw [isOk_readFrom_whole hw hfree]
    exact (and_iff_left nofun).symm
  | cons c r =>
    obtain rfl : c = ',' := by
      have hhead := List.head?_dropWhile_not (· != ',') l
      rw [hrest] at hhead
      simpa using hhead
    rw [hrest] at hsplit
    generalize l.takeWhile (· != ',') = w at hsplit hfree ⊢
    subst hsplit
    rw [isOk_readFrom_cut hw hfree, Bool.and_eq_true, List.isEmpty_iff, Text.trimEnd_eq_nil_iff,
      List.tail_cons]

end Reading

/-! ## The whole directive -/

theorem Plain.isBlank_head {m : List Char} (h : Plain m) :
    ∀ c ∈ m.head?, Text.isBlank c = false := by
  obtain ⟨⟨c, hc, hletter⟩, -⟩ := h
  intro c' hc'
  obtain rfl : c' = c := Option.mem_unique hc' hc
  rcases Bool.or_eq_true_iff.1 hletter with halpha | hmark
  · exact Text.not_blank_of_isAlphanumeric halpha
  · obtain rfl | rfl | rfl : c' = '-' ∨ c' = ':' ∨ c' = '_' := by simpa using hmark
    all_goals decide

theorem Plain.trim_append {m : List Char} (h : Plain m) (l : List Char) :
    Text.trim (m ++ '=' :: l) = m ++ '=' :: Text.trimEnd l := by
  obtain ⟨c, hc, -⟩ := h.head
  have hhead : ∀ d ∈ (m ++ '=' :: l).head?, Text.isBlank d = false := by
    intro d hd
    rw [List.head?_append, Option.mem_def.1 hc] at hd
    exact h.isBlank_head d (hc.trans hd)
  rw [Text.trim_of_head hhead, Text.trimEnd_append_cons m (by decide)]

theorem readFrom_name {written : String} {m l : List Char} (h : Plain m)
    (hw : written.toList = m ++ '=' :: l) (rest : List Char) :
    readFrom written {} .start 0 (m ++ '=' :: rest) =
      readFrom written { target := some (String.ofList m) } (.level (size (m ++ ['='])))
        (size (m ++ ['='])) rest := by
  obtain ⟨⟨c, hc, hletter⟩, hmarks⟩ := h
  obtain ⟨cs, rfl⟩ : ∃ cs, m = c :: cs := List.head?_eq_some_iff.1 hc
  obtain ⟨⟨-, hbracket, -⟩, hcs⟩ := List.forall_mem_cons.1 hmarks
  have hstart : step written {} 0 c .start = .ok ({}, .word 0) := by
    simp only [step, beq_iff_eq, hbracket, if_false, hletter, if_true]
  have hplace : 0 + c.utf8Size + size cs = size (c :: cs) := by
    rw [Text.size_cons, Nat.zero_add]
  have hfront : written.toList = [] ++ (c :: cs ++ '=' :: l) := hw
  have hcut : cut written 0 (size (c :: cs)) = .ok (String.ofList (c :: cs)) := cut_append hfront
  have hequals : step written {} (size (c :: cs)) '=' (.word 0) =
      .ok ({ target := some (String.ofList (c :: cs)) }, .level (size (c :: cs) + 1)) := by
    simp only [step, hcut, beq_self_eq_true, if_true]
    rfl
  rw [List.cons_append, readFrom_cons hstart, readFrom_word hcs, hplace, readFrom_cons hequals,
    Text.size_append]
  rfl

/-- **A directive that gives a plain name a level is read if and only if the level is one.** -/
theorem isOk_read_iff {m l : String} (h : Plain m.toList) :
    (read (m ++ "=" ++ l)).isOk = true ↔ TakenAsLevel l.toList := by
  have hw : (m ++ "=" ++ l).toList = m.toList ++ '=' :: l.toList := by simp
  have hafter : (m ++ "=" ++ l).toList = (m.toList ++ ['=']) ++ l.toList := by simp
  rw [read, hw, h.trim_append, readFrom_name h hw]
  exact isOk_readFrom_level hafter

end Directive

end Tenancy
