import Tenancy.Proofs.Json.Strings

/-!
# Proofs/Json/RoundTrip — a written value reads back

    parse (utf8 (render j))  =  j

for every value in which strings and keys are text and nothing is a number (`Textual`).  Each value
is read off the front of its text (`ReadsBack`), and so are the items of a list and the members of
an object if they are.  The text of such a value is one line (`Textual.isPrintable`).
-/

namespace Tenancy.Json

/-- Strings and keys are text, and nothing is a number. -/
inductive Textual : Json → Prop
  | null : Textual .null
  | bool (b : Bool) : Textual (.bool b)
  | str (s : String) : Textual (str s)
  | array {js : List Json} (h : ∀ j ∈ js, Textual j) : Textual (.array js)
  | obj {ms : List (String × Json)} (h : ∀ m ∈ ms, Textual m.2) : Textual (obj ms)

theorem Textual.opt {α : Type} {write : α → Json} (h : ∀ a, Textual (write a)) (x : Option α) :
    Textual (.opt (x.map write)) := by
  cases x with
  | none => exact .null
  | some a => exact h a

theorem Textual.map {α : Type} {write : α → Json} (h : ∀ a, Textual (write a)) (xs : List α) :
    Textual (.array (xs.map write)) :=
  .array (List.forall_mem_map.2 fun a _ => h a)

/-! ## The text of lists and objects -/

theorem renderItems_eq_map (js : List Json) : renderItems js = js.map render := by
  induction js with
  | nil => rfl
  | cons j js ih => rw [renderItems, ih, List.map_cons]

/-- A key, a colon and a value. -/
def member (m : String × Json) : String :=
  quote m.1 ++ ":" ++ m.2.render

theorem renderMembers_eq_map (ms : List (String × Json)) :
    renderMembers (ms.map fun m => (some m.1, m.2)) = ms.map member := by
  induction ms with
  | nil => rfl
  | cons m ms ih =>
    rw [List.map_cons, renderMembers, ih, List.map_cons]
    rfl

theorem utf8_render_array (js : List Json) :
    utf8 (Json.array js).render = 91 :: utf8 (joined (js.map render)) ++ [93] := by
  rw [render, renderItems_eq_map, utf8_append, utf8_append]
  rfl

theorem utf8_render_obj (ms : List (String × Json)) :
    utf8 (obj ms).render = 123 :: utf8 (joined (ms.map member)) ++ [125] := by
  rw [obj, render, renderMembers_eq_map, utf8_append, utf8_append]
  rfl

theorem utf8_joined_cons (p q : String) (ps : List String) :
    utf8 (joined (p :: q :: ps)) = utf8 p ++ 44 :: utf8 (joined (q :: ps)) := by
  rw [joined, String.intercalate_cons_cons, utf8_append, utf8_append, List.append_assoc]
  rfl

theorem joined_singleton (p : String) : joined [p] = p :=
  String.intercalate_singleton

theorem utf8_member (m : String × Json) :
    utf8 (member m) = utf8 (quote m.1) ++ 58 :: utf8 m.2.render := by
  rw [member, utf8_append, utf8_append, List.append_assoc]
  rfl

/-! ## Reading lists and objects -/

/-- The value is read off the front of its text, in two steps to a byte at most. -/
def ReadsBack (j : Json) : Prop :=
  ∀ (fuel : Nat) (rest : Bytes), 2 * (utf8 j.render).length ≤ fuel →
    value (fuel + 1) (utf8 j.render ++ rest) = some (j, rest)

theorem skipSpace_cons {b : UInt8} (h : isSpace b = false) (bs : Bytes) :
    skipSpace (b :: bs) = b :: bs := by
  rw [skipSpace, List.dropWhile_cons, h]
  rfl

/-- The bytes begin with neither a blank nor the given bracket. -/
def Begins (bracket : UInt8) (bs : Bytes) : Prop :=
  ∃ b rest, bs = b :: rest ∧ isSpace b = false ∧ b ≠ bracket

theorem Begins.append {bracket : UInt8} {bs : Bytes} (h : Begins bracket bs) (rest : Bytes) :
    Begins bracket (bs ++ rest) := by
  obtain ⟨b, bs, rfl, hb⟩ := h
  exact ⟨b, bs ++ rest, rfl, hb⟩

theorem Begins.joined {bracket : UInt8} {p : String} (h : Begins bracket (utf8 p))
    (ps : List String) : Begins bracket (utf8 (joined (p :: ps))) := by
  cases ps with
  | nil => rwa [joined_singleton]
  | cons q ps =>
    rw [utf8_joined_cons]
    exact h.append _

theorem value_array {bs : Bytes} (h : Begins 93 bs) (fuel : Nat) :
    value (fuel + 1) (91 :: bs) = (items fuel bs).map fun r => (.array r.1, r.2) := by
  obtain ⟨b, bs, rfl, hspace, hend⟩ := h
  simp only [value, skipSpace_cons (b := 91) rfl, skipSpace_cons hspace]
  simp [hend]

theorem value_object {bs : Bytes} (h : Begins 125 bs) (fuel : Nat) :
    value (fuel + 1) (123 :: bs) = (members fuel bs).map fun r => (.object r.1, r.2) := by
  obtain ⟨b, bs, rfl, hspace, hend⟩ := h
  simp only [value, skipSpace_cons (b := 123) rfl, skipSpace_cons hspace]
  simp [hend]

theorem items_joined {js : List Json} (h : ∀ j ∈ js, ReadsBack j) :
    ∀ (j : Json), ReadsBack j → ∀ (fuel : Nat) (rest : Bytes),
      2 * (utf8 (joined ((j :: js).map render))).length < fuel →
      items (fuel + 1) (utf8 (joined ((j :: js).map render)) ++ 93 :: rest) =
        some (j :: js, rest) := by
  induction js with
  | nil =>
    intro j hj fuel rest hfuel
    obtain ⟨fuel, rfl⟩ : ∃ f, fuel = f + 1 := ⟨fuel - 1, by omega⟩
    rw [List.map_singleton, joined_singleton] at hfuel ⊢
    rw [items, hj fuel _ (by omega)]
    rfl
  | cons i js ih =>
    intro j hj fuel rest hfuel
    obtain ⟨fuel, rfl⟩ : ∃ f, fuel = f + 1 := ⟨fuel - 1, by omega⟩
    obtain ⟨hi, hjs⟩ := List.forall_mem_cons.1 h
    rw [List.map_cons, List.map_cons, utf8_joined_cons, ← List.map_cons] at hfuel ⊢
    rw [List.length_append, List.length_cons] at hfuel
    rw [List.append_assoc, items, hj fuel _ (by omega)]
    simp only [List.cons_append, skipSpace_cons (b := 44) rfl]
    rw [ih hjs i hi fuel rest (by omega)]
    rfl

/-- A member is read off the front, the last as well as any before it. -/
theorem members_member {m : String × Json} (hm : ReadsBack m.2) {fuel : Nat}
    (hfuel : 2 * (utf8 (member m)).length ≤ fuel) (rest : Bytes) :
    members (fuel + 2) (utf8 (member m) ++ 44 :: rest) =
        (members (fuel + 1) rest).map (fun r => ((some m.1, m.2) :: r.1, r.2)) ∧
      members (fuel + 2) (utf8 (member m) ++ 125 :: rest) = some ([(some m.1, m.2)], rest) := by
  obtain ⟨ps, bs, htext, hps, hpieces⟩ := pieces_quote m.1
  rw [utf8_member, htext] at hfuel ⊢
  simp only [List.length_append, List.length_cons] at hfuel
  have hvalue : ∀ rest, value (fuel + 1) (utf8 m.2.render ++ rest) = some (m.2, rest) :=
    fun rest => hm fuel rest (by omega)
  constructor
  · simp only [List.cons_append, List.append_assoc, members, skipSpace_cons (b := 34) rfl,
      hpieces, skipSpace_cons (b := 58) rfl, hvalue, skipSpace_cons (b := 44) rfl, hps]
  · simp only [List.cons_append, List.append_assoc, members, skipSpace_cons (b := 34) rfl,
      hpieces, skipSpace_cons (b := 58) rfl, hvalue, skipSpace_cons (b := 125) rfl, hps]

theorem members_joined {ms : List (String × Json)} (h : ∀ m ∈ ms, ReadsBack m.2) :
    ∀ (m : String × Json), ReadsBack m.2 → ∀ (fuel : Nat) (rest : Bytes),
      2 * (utf8 (joined ((m :: ms).map member))).length < fuel →
      members (fuel + 1) (utf8 (joined ((m :: ms).map member)) ++ 125 :: rest) =
        some ((m :: ms).map fun m => (some m.1, m.2), rest) := by
  induction ms with
  | nil =>
    intro m hm fuel rest hfuel
    obtain ⟨fuel, rfl⟩ : ∃ f, fuel = f + 1 := ⟨fuel - 1, by omega⟩
    rw [List.map_singleton, joined_singleton] at hfuel ⊢
    exact (members_member hm (by omega) rest).2
  | cons n ms ih =>
    intro m hm fuel rest hfuel
    obtain ⟨fuel, rfl⟩ : ∃ f, fuel = f + 1 := ⟨fuel - 1, by omega⟩
    obtain ⟨hn, hms⟩ := List.forall_mem_cons.1 h
    rw [List.map_cons, List.map_cons, utf8_joined_cons, ← List.map_cons] at hfuel ⊢
    rw [List.length_append, List.length_cons] at hfuel
    rw [List.append_assoc, List.cons_append, (members_member hm (by omega) _).1,
      ih hms n hn fuel rest (by omega)]
    rfl

/-! ## All values made of text -/

theorem begins_member (m : String × Json) : Begins 125 (utf8 (member m)) := by
  obtain ⟨-, bs, htext, -⟩ := pieces_quote m.1
  rw [utf8_member, htext]
  exact ⟨34, _, rfl, by decide, by decide⟩

theorem Textual.begins {j : Json} (h : Textual j) : Begins 93 (utf8 j.render) := by
  cases h with
  | null => exact ⟨_, _, rfl, by decide, by decide⟩
  | bool b => cases b <;> exact ⟨_, _, rfl, by decide, by decide⟩
  | str s =>
    obtain ⟨-, bs, htext, -⟩ := pieces_quote s
    exact ⟨34, bs, htext, by decide, by decide⟩
  | array => exact ⟨91, _, utf8_render_array _, by decide, by decide⟩
  | obj => exact ⟨123, _, utf8_render_obj _, by decide, by decide⟩

theorem Textual.readsBack {j : Json} (h : Textual j) : ReadsBack j := by
  induction h with
  | null => exact fun _ _ _ => rfl
  | bool b => cases b <;> exact fun _ _ _ => rfl
  | str s =>
    intro fuel rest _
    obtain ⟨ps, bs, htext, hps, hpieces⟩ := pieces_quote s
    rw [Json.str, render, htext, List.cons_append, value, skipSpace_cons (by decide)]
    simp [hpieces, hps]
  | @array js h ih =>
    intro fuel rest hfuel
    rw [utf8_render_array] at hfuel ⊢
    cases js with
    | nil => rfl
    | cons j js =>
      obtain ⟨hj, hjs⟩ := List.forall_mem_cons.1 ih
      simp only [List.length_append, List.length_cons] at hfuel
      obtain ⟨fuel, rfl⟩ : ∃ f, fuel = f + 1 := ⟨fuel - 1, by omega⟩
      have hbegins : Begins 93 (utf8 (joined ((j :: js).map render))) :=
        (h j List.mem_cons_self).begins.joined (js.map render)
      rw [List.cons_append, List.cons_append, List.append_assoc, value_array (hbegins.append _)]
      exact congrArg (Option.map _) (items_joined hjs j hj fuel rest (by omega))
  | @obj ms h ih =>
    intro fuel rest hfuel
    rw [utf8_render_obj] at hfuel ⊢
    cases ms with
    | nil => rfl
    | cons m ms =>
      obtain ⟨hm, hms⟩ := List.forall_mem_cons.1 ih
      simp only [List.length_append, List.length_cons] at hfuel
      obtain ⟨fuel, rfl⟩ : ∃ f, fuel = f + 1 := ⟨fuel - 1, by omega⟩
      have hbegins : Begins 125 (utf8 (joined ((m :: ms).map member))) :=
        (begins_member m).joined (ms.map member)
      rw [List.cons_append, List.cons_append, List.append_assoc, value_object (hbegins.append _)]
      exact congrArg (Option.map _) (members_joined hms m hm fuel rest (by omega))

/-- **A written value reads back.** -/
theorem parseString_render {j : Json} (h : Textual j) : parseString j.render = some j := by
  have hvalue := h.readsBack (2 * (utf8 j.render).length + 1) [] (by omega)
  rw [List.append_nil] at hvalue
  rw [parseString, parse, hvalue]
  rfl

/-! ## One line -/

theorem isPrintable_joined {ps : List String} (h : ∀ p ∈ ps, IsPrintable (utf8 p)) :
    IsPrintable (utf8 (joined ps)) := by
  induction ps with
  | nil => exact List.forall_mem_nil _
  | cons p ps ih =>
    obtain ⟨hp, hps⟩ := List.forall_mem_cons.1 h
    cases ps with
    | nil => rwa [joined_singleton]
    | cons q ps =>
      rw [utf8_joined_cons]
      exact hp.append (.cons (by decide) (ih hps))

/-- **The text of a value is one line.** -/
theorem Textual.isPrintable {j : Json} (h : Textual j) : IsPrintable (utf8 j.render) := by
  induction h with
  | null => decide
  | bool b => cases b <;> decide
  | str s => exact isPrintable_quote s
  | @array js h ih =>
    rw [utf8_render_array]
    have hitems : ∀ p ∈ js.map render, IsPrintable (utf8 p) := List.forall_mem_map.2 ih
    exact .append (.cons (by decide) (isPrintable_joined hitems)) (.cons (by decide) .nil)
  | @obj ms h ih =>
    rw [utf8_render_obj]
    have hmembers : ∀ p ∈ ms.map member, IsPrintable (utf8 p) := by
      refine List.forall_mem_map.2 fun m hm => ?_
      rw [utf8_member]
      exact (isPrintable_quote m.1).append (.cons (by decide) (ih m hm))
    exact .append (.cons (by decide) (isPrintable_joined hmembers)) (.cons (by decide) .nil)

end Tenancy.Json
