import LayeredSchema.Proofs.Engine.JsonRoundTrip
import LayeredSchema.Proofs.Validation.Integrity

/-!
Bundles that were assembled: their addresses are those of their contents, and stay so over the wire.
-/

namespace LayeredSchema.Bundle

open Assembly

variable {r : Registry} {f : Ocafile} {b : Bundle}

lemma isAddressed_of_assemble (h : assemble r f = .ok b) : b.IsAddressed := by
  obtain ⟨d, rfl, hm⟩ := made_of_assemble h
  refine isAddressed_make f.name rfl fun o ho => ?_
  rw [(hm o ho).eq_make]
  rfl

/-- What is assembled has no finding on addresses, under any rules, and neither has what its wire
form decodes to, if the commands come from a text. -/
theorem isIntact_of_assemble (h : assemble r f = .ok b) (rules : SemanticRules) :
    b.IsIntact rules ∧ ∀ text, Ocafile.parse text = .ok f →
      ∃ c, Bundle.ofJson b.toJson = .ok c ∧ c.IsIntact rules := by
  have hb : b.IsIntact rules := isIntact_iff.mpr (isAddressed_of_assemble h)
  refine ⟨hb, fun text ht => ⟨b, ?_, hb⟩⟩
  have he : Engine.build { registry := r } text = .ok b := Engine.build_ok_iff.mpr ⟨f, ht, h⟩
  exact ofJson_toJson_of_isWire (Engine.isWire_of_build he)

def strictRules : SemanticRules := ⟨["overlay/passport_extra/1.0.0"], ["en"]⟩

theorem isIntact_of_assemble_travel :
    ∃ f b, Ocafile.parse wireSource = .ok f ∧ assemble travelRegistry f = .ok b ∧
      b.IsIntact strictRules ∧ ∃ c, Bundle.ofJson b.toJson = .ok c ∧ c.IsIntact strictRules := by
  obtain ⟨b, hb⟩ := exists_build_wireSource
  obtain ⟨f, hf, h⟩ := Engine.build_ok_iff.mp hb
  dsimp only at h
  obtain ⟨hi, hw⟩ := isIntact_of_assemble h strictRules
  exact ⟨f, b, hf, h, hi, hw wireSource hf⟩

end LayeredSchema.Bundle
