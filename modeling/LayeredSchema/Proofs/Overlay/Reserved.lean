import LayeredSchema.Proofs.Json.Held
import LayeredSchema.Proofs.Overlay.Completion
import LayeredSchema.Proofs.Overlay.Wire

/-!
Reserved keys: what becomes of an overlay whose payload has a key of the overlay's own.

The own entries and those of the payload stand in one flat object, and decoding takes every entry
under a reserved key for an own one. So an overlay is read back exactly when its payload has no such
key. Built-in kinds define their keys and refuse all others, but free texts and custom payloads may
be under any key. Main statement: `decode_make_iff`.
-/

namespace LayeredSchema

namespace Body

variable {tag k : String} {payload : Table Json} {b : Body}

lemma get?_shapes_reserved {kind : Kind} {shapes : Entries Shape} (h : kind.shapes? = some shapes)
    (hk : k ∈ Overlay.reservedKeys) : shapes.get? k = none := by
  refine Entries.get?_eq_none_iff.mpr fun hm => ?_
  obtain ⟨e, he, rfl⟩ := List.mem_map.mp hm
  exact Kind.shapes_unreserved h he hk

lemma get?_completed_reserved (hk : k ∈ Overlay.reservedKeys) :
    (completed tag payload).get? k = payload.get? k := by
  rw [completed]
  split
  · rename_i kind _
    cases hs : kind.shapes? with
    | none => rw [Kind.completed, hs]
    | some shapes => rw [Kind.get?_completed hs, get?_shapes_reserved hs hk]
  · rfl

lemma get?_reserved_of_builtin {kind : Kind} (hp : ∀ e ∈ payload.entries, e.2.IsNormal)
    (h : ofPayload tag payload = .ok b) (ht : kind.tag? = some tag) (hm : kind ≠ .metadata)
    (hk : k ∈ Overlay.reservedKeys) : payload.get? k = none := by
  have ht := Kind.ofTag?_eq_some_iff.mpr ht
  have hc := (Kind.of_ofTag? ht).2
  rw [ofPayload_of_ofTag? ht] at h
  have hall := (ofKind_ok_iff_takes hc hp).mp ⟨b, h⟩
  cases hg : payload.get? k with
  | none => rfl
  | some v =>
    have hv := hall (k, v) (Entries.mem_of_get? hg)
    cases hs : kind.shapes? with
    | none => cases kind <;> simp_all [Kind.shapes?]
    | some shapes =>
      simp only [Kind.Takes, hs] at hv
      obtain ⟨sh, hsh, -⟩ := hv
      simp [get?_shapes_reserved hs hk] at hsh

end Body

namespace Overlay

variable {tag k : String} {payload : Table Json} {b : Body} {o : Overlay}

/-- An overlay's wire form is decoded to an overlay of the same language, body and address. -/
def SurvivesWire (o : Overlay) : Prop :=
  ∃ p, ofJson o.toJson = .ok p ∧ p.language = o.language ∧ p.body = o.body ∧ p.digest = o.digest

def Unreserved (payload : Table Json) : Prop := ∀ k ∈ reservedKeys, payload.get? k = none

section Decoded

variable (hp : ∀ e ∈ payload.entries, e.2.IsNormal) (h : Body.ofPayload tag payload = .ok b)
include hp h

lemma get?_toPayload_reserved (hk : k ∈ reservedKeys) : b.toPayload.get? k = payload.get? k := by
  rw [((Body.ofPayload_completed hp).1 b h).2.1, Body.get?_completed_reserved hk]

lemma isWire_iff_unreserved : b.IsWire ↔ Unreserved payload := by
  constructor
  · exact fun hw k hk => (get?_toPayload_reserved hp h hk).symm.trans (get?_payload hw hk)
  · intro hu
    have hn : ∀ e ∈ payload.entries, e.1 ∉ reservedKeys := fun e he hk =>
      Entries.get?_eq_none_iff.mp (hu e.1 hk) (List.mem_map.mpr ⟨e, he, rfl⟩)
    have hw := Body.toPayload_of_ofPayload (fun _ => Json.Plain.isNormal) h hn fun _ => hp
    exact ⟨fun e he => (hw e he).1, fun e he => (hw e he).2⟩

lemma survivesWire_iff (ho : o.body = b) : o.SurvivesWire ↔ Unreserved payload := by
  subst ho
  rw [← isWire_iff_unreserved hp h]
  constructor
  · rintro ⟨p, hj, -, hb, -⟩
    exact hb ▸ isWire_of_ofJson hj
  · exact fun hw => ⟨o, ofJson_toJson hw, rfl, rfl, rfl⟩

lemma distinctNames_iff (ho : o.body = b) : o.toJson.HasDistinctNames ↔
    ∀ k ∈ o.ownEntries.names, payload.get? k = none := by
  subst ho
  have hr : ∀ k ∈ o.ownEntries.names, k ∈ reservedKeys := by
    intro k hk
    obtain ⟨e, he, rfl⟩ := List.mem_map.mp hk
    exact (mem_ownEntries he).1
  have hn : o.toJson.HasDistinctNames ↔ ∀ k ∈ o.ownEntries.names, k ∉ o.body.toPayload.names := by
    rw [toJson_eq, Json.HasDistinctNames, Entries.names, List.map_append, List.nodup_append]
    constructor
    · exact fun ⟨_, _, hd⟩ k hk hb => hd k hk k hb rfl
    · exact fun hd => ⟨nodup_ownEntries, o.body.toPayload.sorted.nodup_names,
        fun k hk l hl hkl => hd k hk (hkl ▸ hl)⟩
  rw [hn]
  refine forall_congr' fun k => forall_congr' fun hk => ?_
  rw [← get?_toPayload_reserved hp h (hr k hk)]
  exact Entries.get?_eq_none_iff.symm

end Decoded

lemma forall_mem_names_make {P : String → Prop} (language : Option String) (body : Body) :
    (∀ k ∈ (make language body).ownEntries.names, P k) ↔
      P "digest" ∧ P "type" ∧ (language ≠ none → P "language") := by
  cases language <;> simp [ownEntries, make, optionalEntry, Entries.names]

/-- An overlay made from a payload that decodes has no key twice and is read back as it is, exactly
when the payload has no reserved key. The payloads of built-in kinds other than the free texts never
have one. The values of a JSON object are in order of names at every depth. -/
theorem decode_make_iff (hp : ∀ e ∈ payload.entries, e.2.IsNormal)
    (h : Body.ofPayload tag payload = .ok b) (language : Option String) :
    ((make language b).toJson.HasDistinctNames ∧ (make language b).SurvivesWire ↔
      Unreserved payload) ∧
    ((make language b).SurvivesWire ↔ Unreserved payload) ∧
    ((make language b).toJson.HasDistinctNames ↔ payload.get? "digest" = none ∧
      payload.get? "type" = none ∧ (language ≠ none → payload.get? "language" = none)) ∧
    ∀ kind : Kind, kind.tag? = some tag → kind ≠ .metadata → Unreserved payload := by
  have hs : (make language b).SurvivesWire ↔ Unreserved payload := survivesWire_iff hp h rfl
  have hd := (distinctNames_iff hp h (o := make language b) rfl).trans
    (forall_mem_names_make language b)
  refine ⟨?_, hs, hd, fun kind ht hm k => Body.get?_reserved_of_builtin hp h ht hm⟩
  rw [hs, hd]
  constructor
  · exact And.right
  · exact fun hu => ⟨⟨hu _ (by decide), hu _ (by decide), fun _ => hu _ (by decide)⟩, hu⟩

def retagged : Table Json := .ofList [("type", .string "overlay/label/2.0.0")]

theorem decode_make_retagged : ∃ b, Body.ofPayload "overlay/extra/1.0.0" retagged = .ok b ∧
    (∀ e ∈ retagged.entries, e.2.IsNormal) ∧ ¬(make none b).toJson.HasDistinctNames ∧
    ¬(make none b).SurvivesWire := by
  have hp : ∀ e ∈ retagged.entries, e.2.IsNormal := by
    intro e he
    obtain rfl := List.mem_singleton.mp he
    rfl
  have hb : Body.ofPayload "overlay/extra/1.0.0" retagged =
      .ok (.custom ⟨"overlay/extra/1.0.0", by decide, by decide⟩ retagged) := by rfl
  obtain ⟨-, hs, hd, -⟩ := decode_make_iff hp hb none
  have hr : retagged.get? "type" ≠ none := by decide
  exact ⟨_, hb, hp, fun hn => hr (hd.mp hn).2.1, fun hw => hr (hs.mp hw "type" (by decide))⟩

end Overlay

end LayeredSchema
