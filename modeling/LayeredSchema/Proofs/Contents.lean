import LayeredSchema.Proofs.Bundle
import LayeredSchema.Proofs.Canonical.Encoding

/-!
The contents that addresses are computed over: those of the parts of a bundle, and of the bundle
itself, tell all that they are made from but the order in which attributes were declared.
-/

namespace LayeredSchema

lemma AttributeType.isNormal_toJson (t : AttributeType) : t.toJson.IsNormal := by
  induction t with
  | array t ih => exact Json.isNormal_array (List.forall_mem_singleton.mpr ih)
  | primitive p => rfl
  | reference r => rfl

namespace CaptureBase

variable {t u c d : String} {as bs : Attributes}

lemma names_toJson (as : Attributes) :
    Entries.names (as.entries.map fun (name, t) => (name, t.toJson)) = as.entries.names := by
  rw [Entries.names, List.map_map]
  rfl

lemma distinctNames_content (t c : String) (as : Attributes) :
    (content t c as).Throughout Json.HasDistinctNames := by
  refine Json.throughout_object (by simp [Json.HasDistinctNames, Entries.names]) ?_
  simp only [List.forall_mem_cons]
  refine ⟨Json.throughout_string trivial, Json.throughout_string trivial, ?_, by simp⟩
  refine Json.throughout_object ?_ fun e he => ?_
  · rw [Json.HasDistinctNames, names_toJson]
    exact as.nodup
  · obtain ⟨a, -, rfl⟩ := List.mem_map.mp he
    exact a.2.isNormal_toJson.distinctNames

lemma normal_attributes_eq_iff :
    as.toJson.normal = bs.toJson.normal ↔ ∀ name, as.get? name = bs.get? name := by
  have hn (as : Attributes) :
      (Entries.names (as.entries.map fun (name, t) => (name, t.toJson))).Nodup :=
    names_toJson as ▸ as.nodup
  have hg (as : Attributes) (name : String) :
      (Entries.get? (as.entries.map fun (name, t) => (name, t.toJson)) name).map Json.normal =
        (as.get? name).map AttributeType.toJson := by
    refine (congrArg _ (Entries.get?_map as.entries AttributeType.toJson name)).trans ?_
    rw [Option.map_map]
    exact Option.map_congr fun t _ => t.isNormal_toJson
  have hi : Function.Injective AttributeType.toJson := fun _ _ => AttributeType.toJson_inj
  rw [Attributes.toJson, Attributes.toJson, Canonical.normal_object_eq_iff (hn as) (hn bs)]
  simp only [hg, (Option.map_injective hi).eq_iff]

lemma normal_content_eq_iff : (content t c as).normal = (content u d bs).normal ↔
    t = u ∧ c = d ∧ ∀ name, as.get? name = bs.get? name := by
  have hn (t c : String) (as : Attributes) : (Entries.names [("type", Json.string t),
      ("classification", .string c), ("attributes", as.toJson)]).Nodup := by
    simp [Entries.names]
  rw [← normal_attributes_eq_iff]
  constructor
  · intro h
    have hk := (Canonical.normal_object_eq_iff (hn t c as) (hn u d bs)).mp h
    have ht := hk "type"
    have hc := hk "classification"
    have ha := hk "attributes"
    simp [Entries.get?_cons, Json.normal] at ht hc ha
    exact ⟨ht, hc, ha⟩
  · rintro ⟨rfl, rfl, ha⟩
    simp only [content, Json.normal, Json.normalEntries, ha]

end CaptureBase

namespace Overlay

variable {l m : Option String} {b c : Body}

lemma isNormal_content (h : b.IsWire) : Json.IsNormal (.object (content l b).entries) := by
  have ht : ∀ e ∈ (b.toPayload.insert "type" (.string b.tag)).entries, e.2.IsNormal := by
    intro e he
    rcases Entries.mem_insert he with rfl | he
    · rfl
    · exact h.normal e he
  refine Json.isNormal_object (content l b).sorted fun e he => ?_
  cases l with
  | none => exact ht e he
  | some l =>
    rcases Entries.mem_insert he with rfl | he
    · rfl
    · exact ht e he

lemma get?_content (h : b.IsWire) (k : String) : (content l b).get? k =
    if "language" = k then l.map .string
    else if "type" = k then some (.string b.tag) else b.toPayload.get? k := by
  have hl := get?_payload h (by decide : "language" ∈ reservedKeys)
  cases l with
  | none =>
    rw [content, Table.get?_insert]
    by_cases hk : "language" = k
    · subst hk
      rw [if_neg (by decide), if_pos rfl, hl]
      rfl
    · rw [if_neg hk]
  | some l =>
    rw [content, Table.get?_insert, Table.get?_insert]
    rfl

lemma content_inj (hb : b.IsWire) (hc : c.IsWire) :
    content l b = content m c ↔ l = m ∧ b = c := by
  constructor
  · intro h
    have hk (k : String) : (content l b).get? k = (content m c).get? k := by rw [h]
    simp only [get?_content hb, get?_content hc] at hk
    have hl : l.map Json.string = m.map .string := by simpa using hk "language"
    have ht : b.tag = c.tag := by simpa using hk "type"
    have hp : b.toPayload = c.toPayload := by
      refine Table.ext_get? fun k => ?_
      by_cases hr : k ∈ reservedKeys
      · rw [get?_payload hb hr, get?_payload hc hr]
      · have hkl : "language" ≠ k := by
          rintro rfl
          exact hr (by decide)
        have hkt : "type" ≠ k := by
          rintro rfl
          exact hr (by decide)
        have he := hk k
        rwa [if_neg hkl, if_neg hkt, if_neg hkl, if_neg hkt] at he
    exact ⟨Option.map_injective (fun _ _ => Json.string.inj) hl, Body.ext_toPayload ht hp⟩
  · rintro ⟨rfl, rfl⟩
    rfl

end Overlay

namespace Bundle

variable {c d : Said} {os ps : List Said}

lemma isNormal_content (c : Said) (os : List Said) : (content c os).IsNormal := by
  have hs : "capture_base" < "overlays" := by decide
  refine Json.isNormal_object (by simpa [Entries.Sorted] using hs) ?_
  simp only [List.forall_mem_cons]
  exact ⟨rfl, (Json.Plain.texts _).isNormal, by simp⟩

lemma content_inj : content c os = content d ps ↔ c = d ∧ os = ps := by
  have hs : Function.Injective fun s : Said => Json.string s.text :=
    fun _ _ h => Said.text_inj.mp (Json.string.inj h)
  simp [content, Json.ofTexts, Said.text_inj, Function.comp_def, (List.map_injective_iff.mpr hs).eq_iff]

end Bundle

end LayeredSchema
