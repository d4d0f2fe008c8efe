import Tenancy.Artifact.Materializer
import Tenancy.Proofs.Json.Records

/-!
# Proofs/Artifact/Header — declared links are the links of the artifact

    materialize (encode h body)  =  the artifact of these bytes with the links of h

whatever the ids in the header hold: its record is written without a line feed
(`Json.Textual.isPrintable`) and reads back (`Json.parseString_render`).  What comes after the
first line feed of a unit plays no part.
-/

namespace Tenancy

namespace UnitHeader

/-! ## The record -/

theorem textual_toJson (h : UnitHeader) : h.toJson.Textual := by
  refine .obj ?_
  simp only [List.forall_mem_cons]
  exact ⟨.opt .str _, .map .str _, List.forall_mem_nil _⟩

theorem ofJson?_toJson (h : UnitHeader) : ofJson? h.toJson = some h := by
  have hancestor : Json.optional? Json.asText? (.opt (h.ancestor.map .str)) = some h.ancestor :=
    Json.optional?_opt Json.str (fun _ => rfl) (fun _ => nofun) h.ancestor
  have himplemented : Json.listOf? Json.asText? (.strs h.implemented) = some h.implemented :=
    Json.listOf?_map Json.str (fun _ => rfl) h.implemented
  have hrecord : h.toJson.record? ["extends", "implements"] =
      some [some (.opt (h.ancestor.map .str)), some (.strs h.implemented)] :=
    Json.record?_obj _ (by simp)
  rw [ofJson?, hrecord]
  simp only [Json.field?, hancestor, himplemented, Option.bind_eq_bind, Option.bind_some]

theorem ofLine_render (h : UnitHeader) : ofLine (utf8 h.toJson.render) = .ok h := by
  have hparse : Json.parse (utf8 h.toJson.render) = some h.toJson :=
    Json.parseString_render h.textual_toJson
  rw [ofLine, hparse, Option.bind_some, ofJson?_toJson]

/-! ## The line -/

/-- The bytes up to the first line feed. -/
def firstLine (bs : Bytes) : Bytes :=
  bs.takeWhile (· != 10)

theorem firstLine_append {line : Bytes} (h : ∀ b ∈ line, b ≠ 10) (bs : Bytes) :
    firstLine (line ++ bs) = line ++ firstLine bs :=
  List.takeWhile_append_of_pos fun b hb => bne_iff_ne.2 (h b hb)

theorem ne_feed_of_mem_firstLine (bs : Bytes) : ∀ b ∈ firstLine bs, b ≠ 10 := by
  intro b hb
  have hline : (bs.takeWhile (· != 10)).all (· != 10) = true := List.all_takeWhile
  exact bne_iff_ne.1 (List.all_eq_true.1 hline b hb)

theorem firstLine_firstLine (bs : Bytes) : firstLine (firstLine bs) = firstLine bs := by
  rw [← List.append_nil (firstLine bs), firstLine_append (ne_feed_of_mem_firstLine bs)]
  rfl

theorem headerLine?_append (bs : Bytes) : headerLine? (marker ++ bs) = some (firstLine bs) := by
  have hmarker : marker.isPrefixOf (marker ++ bs) = true :=
    List.isPrefixOf_iff_prefix.2 (List.prefix_append marker bs)
  rw [headerLine?, if_pos hmarker, List.drop_left]
  rfl

theorem headerLine?_unmarked {bs : Bytes} (h : ¬ marker <+: bs) : headerLine? bs = none :=
  if_neg fun hmarker => h (List.isPrefixOf_iff_prefix.1 hmarker)

/-- What comes after the first line feed plays no part. -/
theorem headerLine?_firstLine (bs : Bytes) : headerLine? (firstLine bs) = headerLine? bs := by
  by_cases hmarker : marker <+: bs
  · obtain ⟨bs, rfl⟩ := hmarker
    have hfeed : Json.IsPrintable marker := by decide
    rw [firstLine_append hfeed.ne_feed, headerLine?_append, headerLine?_append,
      firstLine_firstLine]
  · have hline : ¬ marker <+: firstLine bs :=
      fun hbegins => hmarker (hbegins.trans (List.takeWhile_prefix _))
    rw [headerLine?_unmarked hmarker, headerLine?_unmarked hline]

theorem ofUnit_firstLine (bs : Bytes) : ofUnit (firstLine bs) = ofUnit bs := by
  rw [ofUnit, headerLine?_firstLine, ofUnit]

/-- **A header reads back, whatever the body is.** -/
theorem ofUnit_encode (h : UnitHeader) (body : Bytes) : ofUnit (h.encode body) = .ok h := by
  have hfeed : ∀ b ∈ utf8 h.toJson.render, b ≠ 10 := h.textual_toJson.isPrintable.ne_feed
  have hline : firstLine (utf8 h.toJson.render ++ 10 :: body) = utf8 h.toJson.render := by
    rw [firstLine_append hfeed, firstLine, List.takeWhile_cons_of_neg (by decide), List.append_nil]
  rw [ofUnit, encode, List.append_assoc, headerLine?_append, hline]
  exact h.ofLine_render

theorem ofUnit_unmarked {bs : Bytes} (h : ¬ marker <+: bs) : ofUnit bs = .ok {} := by
  rw [ofUnit, headerLine?_unmarked h]

end UnitHeader

namespace Materializer

/-- **The links of an artifact are those that its first line declares.**  A unit that is written
with a header has the links of the header; the links of any unit, or what is wrong with it, are a
matter of its first line alone; a unit that does not begin with the marker has none, and neither
has a data file. -/
theorem descriptor_links (id : String) (origin : Origin) :
    (∀ (h : UnitHeader) (body : Bytes),
      descriptor.materialize (.code id) (h.encode body) origin =
        .ok ⟨.code id, h.encode body, origin, h.ancestor.toList ++ h.implemented⟩) ∧
    (∀ bs : Bytes, descriptor.materialize (.code id) bs origin =
      match UnitHeader.ofUnit (UnitHeader.firstLine bs) with
      | .ok h => .ok ⟨.code id, bs, origin, h.links⟩
      | .error f => .error (.corruptArtifact (.code id) (.header f))) ∧
    (∀ bs : Bytes, ¬ UnitHeader.marker <+: bs →
      descriptor.materialize (.code id) bs origin = .ok ⟨.code id, bs, origin, []⟩) ∧
    ∀ bs : Bytes, descriptor.materialize (.data id) bs origin = .ok ⟨.data id, bs, origin, []⟩ := by
  have hcode : ∀ bs : Bytes, descriptor.materialize (.code id) bs origin =
      match UnitHeader.ofUnit bs with
      | .ok h => .ok ⟨.code id, bs, origin, h.links⟩
      | .error f => .error (.corruptArtifact (.code id) (.header f)) := fun bs => by
    have hlinks : descriptor.links (.code id) bs =
        match UnitHeader.ofUnit bs with
        | .ok h => .ok h.links
        | .error f => .error (.header f) := rfl
    rw [materialize, hlinks]
    cases UnitHeader.ofUnit bs <;> rfl
  refine ⟨fun h body => ?_, fun bs => ?_, fun bs hmarker => ?_, fun _ => rfl⟩
  · rw [hcode, h.ofUnit_encode]
    rfl
  · rw [hcode, UnitHeader.ofUnit_firstLine]
  · rw [hcode, UnitHeader.ofUnit_unmarked hmarker]
    rfl

/-- A unit that is written with a header links to what the header says, in its order; plain text
links to nothing. -/
theorem descriptor_links_written :
    let h : UnitHeader := ⟨some "a.Base", ["b.\"Quoted\"", "c.Two\nLines"]⟩
    h.encode (utf8 "body") = utf8 ("@unit \x7b\"extends\":\"a.Base\"," ++
        "\"implements\":[\"b.\\\"Quoted\\\"\",\"c.Two\\nLines\"]\x7d\nbody") ∧
      descriptor.materialize (.code "a.Unit") (h.encode (utf8 "body")) ⟨⟨1⟩, "ns1"⟩ =
        .ok ⟨.code "a.Unit", h.encode (utf8 "body"), ⟨⟨1⟩, "ns1"⟩,
          ["a.Base", "b.\"Quoted\"", "c.Two\nLines"]⟩ ∧
      ¬ UnitHeader.marker <+: utf8 "plain" ∧
      descriptor.materialize (.code "a.Plain") (utf8 "plain") ⟨⟨1⟩, "ns1"⟩ =
        .ok ⟨.code "a.Plain", utf8 "plain", ⟨⟨1⟩, "ns1"⟩, []⟩ := by
  intro h
  have htext : h.encode (utf8 "body") = utf8 ("@unit \x7b\"extends\":\"a.Base\"," ++
      "\"implements\":[\"b.\\\"Quoted\\\"\",\"c.Two\\nLines\"]\x7d\nbody") := by
    decide +kernel
  have hplain : ¬ UnitHeader.marker <+: utf8 "plain" := by decide
  have hunit := (descriptor_links "a.Unit" ⟨⟨1⟩, "ns1"⟩).1 h (utf8 "body")
  exact ⟨htext, hunit, hplain, (descriptor_links "a.Plain" ⟨⟨1⟩, "ns1"⟩).2.2.1 _ hplain⟩

end Materializer

end Tenancy
