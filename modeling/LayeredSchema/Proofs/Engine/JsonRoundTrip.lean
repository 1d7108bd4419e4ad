import LayeredSchema.Proofs.Bundle
import LayeredSchema.Proofs.Engine.TextRoundTrip

/-!
The wire form of a bundle, whether the bundle was built from the text of an OCAfile or read from
JSON text: it decodes to the bundle.
-/

namespace LayeredSchema

open Ocafile Assembly

variable {e : Engine} {text : String} {b : Bundle}

def Bundle.IsObtained (b : Bundle) : Prop :=
  (∃ (e : Engine) (text : String), e.build text = .ok b) ∨ ∃ text, Bundle.read text = .ok b

lemma Bundle.bodies_of_assemble {r : Registry} {f : Ocafile} (h : assemble r f = .ok b) :
    ∀ o ∈ b.overlays, o.body.IsWire := by
  obtain ⟨d, rfl, hm⟩ := made_of_assemble h
  intro _ hbo
  obtain ⟨o, ho, rfl⟩ := List.mem_map.mp hbo
  exact (hm o ho).writable.isWire

lemma Engine.isWire_of_build (h : e.build text = .ok b) : b.IsWire := by
  obtain ⟨f, hf, h⟩ := build_ok_iff.mp h
  constructor
  · exact fun a ha => AttributeType.tidy_of_parseChars (writableAttribute_of_assemble hf h a ha).parse
  · exact Bundle.bodies_of_assemble h

namespace Bundle

lemma isWire_of_read (h : Bundle.read text = .ok b) : b.IsWire := by
  rw [read, Json.decodeText] at h
  split at h
  · exact isWire_of_ofJson (Outcome.mapError_ok_iff.mp h)
  · contradiction

lemma IsObtained.isWire (h : b.IsObtained) : b.IsWire := by
  rcases h with ⟨e, text, h⟩ | ⟨text, h⟩
  · exact Engine.isWire_of_build h
  · exact isWire_of_read h

/-- Decoding undoes the wire form of every bundle that programs come by, and so does reading a text
that stands for the wire form. -/
theorem decode_wire_form (h : b.IsObtained) : ofJson b.toJson = .ok b ∧
    ∀ text, Json.read? text = some b.toJson → Bundle.read text = .ok b := by
  have hb := ofJson_toJson_of_isWire h.isWire
  refine ⟨hb, fun text ht => ?_⟩
  rw [read, Json.decodeText_of_read? ht b.covers_toJson, hb]
  rfl

def wireSource : String :=
  "ADD ATTRIBUTE a=Array[refn:b]\nADD OVERLAY passport-extra\n  notes\n    x=\"y\"\n"

def wireText : String :=
  let digest := String.ofList ('"' :: 'E' :: List.replicate 64 '0' ++ ['"'])
  "[" ++ digest ++ ", null, [" ++ digest ++ ", \"t\"]]"

def wireBundle : Bundle :=
  let digest : Said := ⟨.blake3, List.replicate 32 0, rfl⟩
  ⟨digest, none, ⟨digest, "t", "", ∅⟩, []⟩

lemma exists_build_wireSource :
    ∃ b, Engine.build { registry := travelRegistry } wireSource = .ok b := by
  rw [Outcome.exists_ok_iff_isOk, Engine.build, Ocafile.parse,
    Text.toList_of_eq_ofList (s := wireSource) rfl]
  decide +kernel

theorem decode_wire_form_travel :
    (∃ b, Engine.build { registry := travelRegistry } wireSource = .ok b ∧ ofJson b.toJson = .ok b) ∧
      Bundle.read wireText = .ok wireBundle ∧ ofJson wireBundle.toJson = .ok wireBundle ∧
        Bundle.read wireBundle.text = .ok wireBundle := by
  have ht : Bundle.read wireText = .ok wireBundle := by
    rw [read, Json.decodeText, Json.Outline.read?, wireText]
    simp only [String.toList_append, String.toList_ofList]
    decide +kernel
  -- taking the characters of a text that is not a literal is slow, so that step is done first
  have hr : Json.read? wireBundle.text = some wireBundle.toJson := by
    rw [text, Json.pretty, Json.read?, Json.readWithin?, Json.Outline.read?, String.toList_ofList]
    decide +kernel
  constructor
  · obtain ⟨b, hb⟩ := exists_build_wireSource
    exact ⟨b, hb, (decode_wire_form (Or.inl ⟨_, _, hb⟩)).1⟩
  · obtain ⟨hd, htext⟩ := decode_wire_form (Or.inr ⟨_, ht⟩)
    exact ⟨ht, hd, htext wireBundle.text hr⟩

end Bundle

end LayeredSchema
