import LayeredSchema.Bundle
import LayeredSchema.Proofs.CaptureBase
import LayeredSchema.Proofs.Overlay.Wire

/-!
Bundles on the wire: decoding undoes the wire form of every bundle whose types and payloads can be
decoded, and all that is decoded is such a bundle.
-/

namespace LayeredSchema.Bundle

variable {b : Bundle} {v : Json}

structure IsWire (b : Bundle) : Prop where
  types : b.captureBase.attributes.AreTidy
  bodies : ∀ o ∈ b.overlays, o.body.IsWire

lemma overlaysOfJson_toJson {os : List Overlay} (h : ∀ o ∈ os, o.body.IsWire) :
    overlaysOfJson (.array (os.map (·.toJson))) = .ok os := by
  simp only [overlaysOfJson, Outcome.bind_ok_iff, Outcome.mapM_ok_iff]
  refine ⟨_, rfl, ?_⟩
  rw [List.forall₂_map_left_iff, List.forall₂_same]
  exact fun o ho => Overlay.ofJson_toJson (h o ho)

lemma isWire_of_overlaysOfJson {os : List Overlay} (h : overlaysOfJson v = .ok os) :
    ∀ o ∈ os, o.body.IsWire := by
  obtain ⟨items, -, h⟩ := Outcome.bind_ok_iff.mp h
  intro o ho
  obtain ⟨u, -, hu⟩ := Outcome.exists_of_mem_mapM h ho
  exact Overlay.isWire_of_ofJson hu

lemma ofJson_toJson_of_isWire (h : b.IsWire) : ofJson b.toJson = .ok b := by
  obtain ⟨digest, name, captureBase, overlays⟩ := b
  cases name <;>
  · simp only [ofJson, toJson, Overlay.optionalEntry, List.cons_append, List.nil_append,
      List.foldlM_cons, List.foldlM_nil, Fields.read, Json.setOnce, CaptureBase.decodeSaid_text,
      CaptureBase.ofJson_toJson h.types, overlaysOfJson_toJson h.bodies]
    rfl

lemma covers_toJson (b : Bundle) : Json.Shape.Covers shape b.toJson := by
  have hn : ∀ e ∈ Overlay.optionalEntry "name" b.name,
      [("digest", Json.Shape.whole), ("name", .whole), ("capture_base", CaptureBase.shape),
        ("overlays", .whole)].lookup e.1 = some .whole := by
    cases b.name with
    | none => simp [Overlay.optionalEntry]
    | some s => exact List.forall_mem_singleton.mpr rfl
  have hc (s : Json.Shape) (hs : some CaptureBase.shape = some s) :
      Json.Shape.Covers s b.captureBase.toJson :=
    Option.some.inj hs ▸ b.captureBase.covers_toJson
  refine .fields ?_ ?_
  · simp only [List.forall_mem_cons, List.forall_mem_append, List.cons_append]
    exact ⟨rfl, fun e he => hn e he ▸ rfl, rfl, rfl, by simp⟩
  · simp only [List.forall_mem_cons, List.forall_mem_append, List.cons_append]
    refine ⟨fun s hs => Option.some.inj hs ▸ .whole _, fun e he s hs => ?_, hc,
      fun s hs => Option.some.inj hs ▸ .whole _, by simp⟩
    exact Option.some.inj ((hn e he).symm.trans hs) ▸ .whole _

structure Fields.AreWire (f : Fields) : Prop where
  types : ∀ c ∈ f.captureBase, c.attributes.AreTidy
  bodies : ∀ os ∈ f.overlays, ∀ o ∈ os, o.body.IsWire

lemma Fields.AreWire.read {f g : Fields} (hf : f.AreWire) {e : String × Json}
    (h : f.read e = .ok g) : g.AreWire := by
  unfold Fields.read at h
  split at h <;> simp only [Outcome.bind_ok_iff, Outcome.pure_ok_iff, Json.setOnce_ok_iff] at h
  -- types are decoded under `capture_base`, and bodies under `overlays`
  case h_3 =>
    obtain ⟨_, ⟨-, c, hc, rfl⟩, rfl⟩ := h
    exact ⟨fun d hd => Option.some.inj hd ▸ CaptureBase.areTidy_of_ofJson hc, hf.bodies⟩
  case h_4 =>
    obtain ⟨_, ⟨-, os, hos, rfl⟩, rfl⟩ := h
    exact ⟨hf.types, fun _ h => Option.some.inj h ▸ isWire_of_overlaysOfJson hos⟩
  case h_5 => exact h ▸ hf
  all_goals
    obtain ⟨_, -, rfl⟩ := h
    exact ⟨hf.types, hf.bodies⟩

lemma isWire_of_ofJson (h : ofJson v = .ok b) : b.IsWire := by
  unfold ofJson at h
  split at h
  · obtain ⟨f, hf, h⟩ := Outcome.bind_ok_iff.mp h
    have hw : f.AreWire := Outcome.foldlM_preserves Fields.AreWire
      (fun _ _ _ _ hs h => hs.read h) hf ⟨by simp, by simp⟩
    simp only [Fields.finish, Outcome.bind_ok_iff, Outcome.pure_ok_iff, Json.require_ok_iff] at h
    obtain ⟨_, -, c, hc, rfl⟩ := h
    refine ⟨hw.types c hc, ?_⟩
    cases ho : f.overlays with
    | none => simp
    | some os => exact hw.bodies os ho
  · simp only [Outcome.bind_ok_iff, Outcome.pure_ok_iff] at h
    obtain ⟨_, -, _, -, c, hc, os, hos, _, -, rfl⟩ := h
    obtain ⟨_, -, hc⟩ := Json.exists_of_element hc
    refine ⟨CaptureBase.areTidy_of_ofJson hc, ?_⟩
    rcases Json.exists_of_elementOr hos with rfl | ⟨u, -, hu⟩
    · simp
    · exact isWire_of_overlaysOfJson hu
  · contradiction

end LayeredSchema.Bundle
