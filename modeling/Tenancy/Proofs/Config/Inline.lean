import Tenancy.Proofs.Bytes.Hex
import Tenancy.Proofs.Json.Records
import Tenancy.Proofs.Registry.Reconciling

/-!
# Proofs/Config/Inline — definitions carried by a configuration

    read (inline definitions)  =  definitions

for definitions with ids that are not blank, whatever their payloads are
(`NamespaceConfig.toDefinitions_inline`), and the configuration itself reads back from its JSON
(`NamespaceConfig.ofJson?_toJson`).  So applying it comes to the same as adding the definitions
(`Registry.apply_inline`).
-/

namespace Tenancy

/-! ## Kinds and orders -/

theorem BundleKind.ofWord?_word (k : BundleKind) : ofWord? k.word = some k := by
  cases k <;> rfl

theorem ResolutionOrder.ofWord?_word (o : ResolutionOrder) : ofWord? o.word = some o := by
  cases o <;> rfl

/-! ## Definitions -/

namespace Definition

theorem textual_toJson (d : Definition) : d.toJson.Textual := by
  refine .obj ?_
  simp only [List.forall_mem_cons]
  exact ⟨.str _, .str _, .str _, List.forall_mem_nil _⟩

/-- **A definition reads back from its JSON**, its payload from the digits. -/
theorem ofJson?_toJson (d : Definition) : ofJson? d.toJson = some d := by
  have hkind : BundleKind.ofJson? (.str d.kind.word) = some d.kind := d.kind.ofWord?_word
  have hpayload : payloadOfJson? (.str (Hex.encode d.payload)) = some d.payload := by
    have hdecode := Hex.decode_encode d.payload
    simp only [payloadOfJson?, Json.asText?, Json.str, Option.bind_some, hdecode]
    rfl
  have hrecord : d.toJson.record? ["id", "kind", "payload"] =
      some [some (.str d.id), some (.str d.kind.word), some (.str (Hex.encode d.payload))] :=
    Json.record?_obj _ (by simp)
  have hid : Json.asText? (.str d.id) = some d.id := rfl
  rw [ofJson?, hrecord]
  simp only [Json.field?, hid, hkind, hpayload, Option.bind_eq_bind, Option.bind_some]

end Definition

/-! ## Configured resources -/

namespace ResourceConfig

theorem validate_ofDefinition {d : Definition} (h : Text.allBlank d.id = false) :
    (ofDefinition d).validate = .ok () := by
  simp [validate, ofDefinition, sourceCount, h]

theorem inlinePayload_ofDefinition (d : Definition) :
    (ofDefinition d).inlinePayload = .ok d.payload := by
  have hdigits : (Hex.encode d.payload).toList = Hex.encodeChars d.payload := by
    rw [Hex.encode, String.toList_ofList]
  rw [inlinePayload, ofDefinition, Option.getD_some, hdigits, Hex.trim_encodeChars,
    Hex.decode_encodeChars]

/-- **A definition is read out of the resource that carries it.** -/
theorem toDefinition_ofDefinition (t : Files.Tree) {d : Definition}
    (h : Text.allBlank d.id = false) : (ofDefinition d).toDefinition t = .ok d := by
  have hread : (ofDefinition d).toDefinition t =
      (ofDefinition d).inlinePayload.map fun bytes => ⟨d.id, d.kind, bytes⟩ := by
    rw [toDefinition, validate_ofDefinition h]
    rfl
  rw [hread, inlinePayload_ofDefinition]
  rfl

theorem textual_toJson (r : ResourceConfig) : r.toJson.Textual := by
  refine .obj ?_
  simp only [List.forall_mem_cons]
  exact ⟨.str _, .opt (fun _ => .str _) _, .opt .str _, .opt .str _, .opt .str _,
    List.forall_mem_nil _⟩

theorem ofJson?_toJson (r : ResourceConfig) : ofJson? r.toJson = some r := by
  have hrecord : r.toJson.record? ["id", "kind", "path", "payload_hex", "dir"] =
      some [some (.str r.id), some (.opt (r.kind.map fun k => .str k.word)),
        some (.opt (r.path.map .str)), some (.opt (r.payloadHex.map .str)),
        some (.opt (r.dir.map .str))] :=
    Json.record?_obj _ (by simp)
  have htext : ∀ x : Option String,
      Json.dialect.optional? Json.asText? (.opt (x.map .str)) = some x := fun x => by
    rw [Json.dialect_optional?, Json.optional?_opt Json.str (fun _ => rfl) (fun _ => nofun)]
  have hkind : Json.dialect.optional? (Json.dialect.choiceOf? BundleKind.ofWord?)
      (.opt (r.kind.map fun k => .str k.word)) = some r.kind := by
    rw [Json.dialect_optional?, Json.optional?_opt (fun k : BundleKind => .str k.word)
      BundleKind.ofWord?_word (fun _ => nofun)]
  have hid : Json.asText? (.str r.id) = some r.id := rfl
  rw [ofJson?, read]
  simp only [Json.dialect] at hkind htext ⊢
  simp only [hrecord, Dialect.field?, hid, hkind, htext, Option.bind_eq_bind, Option.bind_some]

end ResourceConfig

/-! ## Configured namespaces -/

namespace NamespaceConfig

/-- **Definitions are read out of the configuration that carries them.** -/
theorem toDefinitions_inline (t : Files.Tree) (name : String) {ds : List Definition}
    (h : ∀ d ∈ ds, Text.allBlank d.id = false) :
    (inline name ds).toDefinitions t = .ok ds := by
  show (ds.map ResourceConfig.ofDefinition).mapM (ResourceConfig.toDefinition t) = .ok ds
  induction ds with
  | nil => rfl
  | cons d ds ih =>
    obtain ⟨hd, hds⟩ := List.forall_mem_cons.1 h
    rw [List.map_cons, List.mapM_cons, ResourceConfig.toDefinition_ofDefinition t hd, ih hds]
    rfl

theorem textual_toJson (c : NamespaceConfig) : c.toJson.Textual := by
  refine .obj ?_
  simp only [List.forall_mem_cons]
  exact ⟨.str _, .opt (fun _ => .str _) _, .opt (.map ResourceConfig.textual_toJson) _,
    List.forall_mem_nil _⟩

theorem ofJson?_toJson (c : NamespaceConfig) : ofJson? c.toJson = some c := by
  have hrecord : c.toJson.record? ["name", "order", "resources"] =
      some [some (.str c.name), some (.opt (c.order.map fun o => .str o.word)),
        some (.opt (c.resources.map fun rs => .array (rs.map ResourceConfig.toJson)))] :=
    Json.record?_obj _ (by simp)
  have horder : Json.dialect.optional? (Json.dialect.choiceOf? ResolutionOrder.ofWord?)
      (.opt (c.order.map fun o => .str o.word)) = some c.order := by
    rw [Json.dialect_optional?, Json.optional?_opt (fun o : ResolutionOrder => .str o.word)
      ResolutionOrder.ofWord?_word (fun _ => nofun)]
  have hitems : ∀ rs : List ResourceConfig, Json.dialect.listOf? (ResourceConfig.read Json.dialect)
      (.array (rs.map ResourceConfig.toJson)) = some rs :=
    Json.listOf?_map ResourceConfig.toJson ResourceConfig.ofJson?_toJson
  have hresources : Json.dialect.optional? (Json.dialect.listOf? (ResourceConfig.read Json.dialect))
      (.opt (c.resources.map fun rs => .array (rs.map ResourceConfig.toJson))) =
        some c.resources := by
    rw [Json.dialect_optional?, Json.optional?_opt _ hitems (fun _ => nofun)]
  have hname : Json.asText? (.str c.name) = some c.name := rfl
  rw [ofJson?, read]
  simp only [Json.dialect] at horder hresources ⊢
  simp only [hrecord, Dialect.field?, hname, horder, hresources, Option.bind_eq_bind,
    Option.bind_some]

end NamespaceConfig

/-! ## Applying the configuration -/

namespace Registry

variable {σ : Type} [Plugin.Backend σ] {s : RegistrySettings} {w : World σ}

/-- What is held according to its digest is held. -/
theorem get?_contents_of_isHeld {ps : List (Program (List (Except NamespaceError Bool)))}
    (hw : Reached s ps w) {name : String} {ds : List Definition} {entries : ArtifactMap}
    {order : ResolutionOrder} (hentries : extractAll s.extractor ds = .ok entries)
    (hd : ∀ held, w.bound.get? name = some held →
      Fingerprint.Discerns held.own.entries entries order)
    (h : isHeld name entries order w.contents = true) :
    w.contents.get? name = some (entries, order) := by
  rw [isHeld_contents, Option.any_eq_true] at h
  obtain ⟨held, hheld, hsame⟩ := h
  obtain ⟨-, ds', hentries'⟩ := hw.extracted.1 name held hheld
  obtain ⟨rfl, rfl⟩ := eq_of_isUnchanged (hd held hheld) (Extraction.own_of_extractAll hentries')
    (Extraction.own_of_extractAll hentries) hsame
  rw [World.contents, Table.get?_map, hheld]
  rfl

/-- Applying what carries definitions goes as adding them goes, but for what is held. -/
theorem meaning_apply_inline (t : Files.Tree) (name : String) {ds : List Definition}
    (hids : ∀ d ∈ ds, Text.allBlank d.id = false) (m : Contents) :
    (Call.apply t (.inline name ds)).meaning s m =
      match prepared s name (.ok ds) with
      | .error e => (.error e, m)
      | .ok entries =>
        if isHeld name entries s.defaultOrder m then (.ok false, m)
        else (.ok true, m.insert name (entries, s.defaultOrder)) := by
  have hprepared : prepared s (NamespaceConfig.inline name ds).name
      ((NamespaceConfig.inline name ds).toDefinitions t) = prepared s name (.ok ds) := by
    rw [NamespaceConfig.toDefinitions_inline t name hids]
    rfl
  rw [Call.meaning, hprepared]
  cases prepared s name (.ok ds) <;> rfl

/-- Both ways fail alike. -/
theorem meaning_apply_inline_error (t : Files.Tree) (name : String) {ds : List Definition}
    (hids : ∀ d ∈ ds, Text.allBlank d.id = false) (m : Contents) (e : NamespaceError) :
    ((Call.apply t (.inline name ds)).meaning s m).1 = .error e ↔
      ((Call.add name ds).meaning s m).1 = .error e := by
  rw [meaning_apply_inline t name hids, Call.meaning]
  cases prepared s name (.ok ds) with
  | error e => exact .rfl
  | ok entries =>
    dsimp only
    split <;> constructor <;> rintro ⟨⟩

/-- Both ways come to the same contents: what is held already is what would be put there. -/
theorem meaning_apply_inline_contents {ps : List (Program (List (Except NamespaceError Bool)))}
    (hw : Reached s ps w) (t : Files.Tree) {name : String} {ds : List Definition}
    (hids : ∀ d ∈ ds, Text.allBlank d.id = false)
    (hd : ∀ held entries, w.bound.get? name = some held →
      extractAll s.extractor ds = .ok entries →
      Fingerprint.Discerns held.own.entries entries s.defaultOrder) :
    ((Call.apply t (.inline name ds)).meaning s w.contents).2 =
      ((Call.add name ds).meaning s w.contents).2 := by
  rw [meaning_apply_inline t name hids, Call.meaning]
  cases hprepared : prepared s name (.ok ds) with
  | error e => rfl
  | ok entries =>
    obtain ⟨-, ds', hds', hentries⟩ := prepared_eq_ok_iff.1 hprepared
    obtain rfl := Except.ok.inj hds'
    dsimp only
    split
    · rename_i hheld
      have hget := get?_contents_of_isHeld hw hentries
        (fun held hbound => hd held entries hbound hentries) hheld
      exact (Table.insert_eq_self hget).symm
    · rfl

/-- Whatever adding does not fail on is put under the name. -/
theorem get?_meaning_add {name : String} {ds : List Definition} {m : Contents}
    (h : ∀ e, ((Call.add name ds).meaning s m).1 ≠ .error e) :
    ∃ entries, extractAll s.extractor ds = .ok entries ∧
      ((Call.add name ds).meaning s m).2.get? name = some (entries, s.defaultOrder) := by
  rw [Call.meaning] at h ⊢
  cases hprepared : prepared s name (.ok ds) with
  | error e =>
    rw [hprepared] at h
    exact absurd rfl (h e)
  | ok entries =>
    obtain ⟨-, ds', hds', hentries⟩ := prepared_eq_ok_iff.1 hprepared
    obtain rfl := Except.ok.inj hds'
    exact ⟨entries, hentries, Table.get?_insert_self _ _ _⟩

/-- Applying a configuration that carries definitions comes to the same as adding them. -/
theorem apply_inline {ps : List (Program (List (Except NamespaceError Bool)))}
    (hw : Reached s ps w) (t : Files.Tree) {name : String} {ds : List Definition}
    (hids : ∀ d ∈ ds, Text.allBlank d.id = false)
    (hd : ∀ held entries, w.bound.get? name = some held →
      extractAll s.extractor ds = .ok entries →
      Fingerprint.Discerns held.own.entries entries s.defaultOrder) :
    let applied := ((Call.apply t (.inline name ds)).program s).run w
    let added := ((Call.add name ds).program s).run w
    (∀ e, applied.1 = .error e ↔ added.1 = .error e) ∧
    applied.2.contents = added.2.contents ∧
    ∀ b, applied.1 = .ok b → ∃ entries, extractAll s.extractor ds = .ok entries ∧
      applied.2.contents.get? name = some (entries, s.defaultOrder) := by
  intro applied added
  obtain ⟨happlied, -⟩ := call_means s (.apply t (.inline name ds)) w
  obtain ⟨hadded, -⟩ := call_means s (.add name ds) w
  have herror : ∀ e, applied.1 = .error e ↔ added.1 = .error e := fun e => by
    have hmeaning := meaning_apply_inline_error (s := s) t name hids w.contents e
    rwa [← happlied, ← hadded] at hmeaning
  have hcontents : applied.2.contents = added.2.contents := by
    have hmeaning := meaning_apply_inline_contents hw t hids hd
    rwa [← happlied, ← hadded] at hmeaning
  refine ⟨herror, hcontents, fun b hb => ?_⟩
  have hadds : ∀ e, ((Call.add name ds).meaning s w.contents).1 ≠ .error e := fun e he => by
    rw [← hadded] at he
    cases hb.symm.trans ((herror e).2 he)
  have hget := get?_meaning_add hadds
  rwa [← hadded, ← hcontents] at hget

end Registry

namespace NamespaceConfig

/-- **A configuration carries definitions without loss.**  If no id is blank, the definitions are
read out of it as they were put in; the configuration reads back from the text of its JSON, and so
does any definition by itself.  In a world that a registry comes to, as long as digests tell apart
what they are compared for, applying the configuration fails if and only if adding the definitions
does, and with the same error; in any case all names have the same content after either, this one,
unless both fail, the entries of the definitions in the default order. -/
theorem inline_carries (name : String) {ds : List Definition}
    (hids : ∀ d ∈ ds, Text.allBlank d.id = false) :
    (∀ t : Files.Tree, (inline name ds).toDefinitions t = .ok ds) ∧
    (Json.parseString (inline name ds).toJson.render).bind ofJson? = some (inline name ds) ∧
    (∀ d : Definition, (Json.parseString d.toJson.render).bind Definition.ofJson? = some d) ∧
    ∀ {σ : Type} [Plugin.Backend σ] (s : RegistrySettings)
      (ps : List (Program (List (Except NamespaceError Bool)))) (w : World σ) (t : Files.Tree),
      Registry.Reached s ps w →
      (∀ held entries, w.bound.get? name = some held → extractAll s.extractor ds = .ok entries →
        Fingerprint.Discerns held.own.entries entries s.defaultOrder) →
      let applied := ((Registry.Call.apply t (inline name ds)).program s).run w
      let added := ((Registry.Call.add name ds).program s).run w
      (∀ e, applied.1 = .error e ↔ added.1 = .error e) ∧
      applied.2.contents = added.2.contents ∧
      ∀ b, applied.1 = .ok b → ∃ entries, extractAll s.extractor ds = .ok entries ∧
        applied.2.contents.get? name = some (entries, s.defaultOrder) := by
  refine ⟨fun t => toDefinitions_inline t name hids, ?_, fun d => ?_, ?_⟩
  · rw [Json.parseString_render (textual_toJson _), Option.bind_some, ofJson?_toJson]
  · rw [Json.parseString_render d.textual_toJson, Option.bind_some, d.ofJson?_toJson]
  · intro σ _ s ps w t hw hd
    exact Registry.apply_inline hw t hids hd

/-- What is held already is carried, applied and added once more. -/
theorem inline_carries_held :
    let ds : List Definition := [⟨"a.A", .code, [1]⟩]
    (inline "orders" ds).toDefinitions ⟨[]⟩ = .ok ds ∧
      (((Registry.Call.apply ⟨[]⟩ (inline "orders" ds)).program {}).run
        Registry.afterFirst).2.contents =
      (((Registry.Call.add "orders" ds).program {}).run Registry.afterFirst).2.contents := by
  intro ds
  have hids : ∀ d ∈ ds, Text.allBlank d.id = false := by decide
  have hw : Registry.Reached {} _ Registry.afterFirst := Registry.Reached.steps
    (.start [[.apply ⟨[]⟩ (Registry.oneUnit 1)]] (w := World.initial (∅ : Plugin.Directory)) rfl)
    (Program.steps_advance [] [] _ _)
  have hdiscerns : ∀ held ∈ Registry.afterFirst.bound.get? "orders",
      ∀ entries ∈ (extractAll {} ds).toOption,
        Fingerprint.Discerns held.own.entries entries .childFirst := by decide +kernel
  obtain ⟨hread, -, -, happly⟩ := inline_carries "orders" hids
  have hsame := happly {} _ Registry.afterFirst ⟨[]⟩ hw fun held entries hheld hentries =>
    hdiscerns held hheld entries (by rw [hentries]; rfl)
  exact ⟨hread ⟨[]⟩, hsame.2.1⟩

end NamespaceConfig

end Tenancy
