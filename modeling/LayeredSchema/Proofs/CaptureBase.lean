import LayeredSchema.CaptureBase
import LayeredSchema.Proofs.AttributeType
import LayeredSchema.Proofs.Json.Decoding
import LayeredSchema.Proofs.Table

/-!
Capture bases on the wire: decoding undoes the wire form wherever the attribute types were read from
texts, and types that are decoded were.
-/

namespace LayeredSchema

namespace Attributes

lemma ext {as bs : Attributes} (h : as.entries = bs.entries) : as = bs := by
  cases as
  cases bs
  simpa using h

lemma declare_entries {as : Attributes} {name : String} {t : AttributeType}
    (h : name ∉ as.entries.names) : (as.declare name t).entries = as.entries ++ [(name, t)] := by
  unfold declare
  rw [dif_neg]
  rwa [contains, Entries.contains_iff]

def AreTidy (as : Attributes) : Prop := ∀ a ∈ as.entries, a.2.Tidy

lemma AreTidy.declare {as : Attributes} (h : as.AreTidy) {name : String} {t : AttributeType}
    (ht : t.Tidy) : (as.declare name t).AreTidy := by
  intro a ha
  by_cases hn : name ∈ as.entries.names
  · have hc : as.contains name = true := Entries.contains_iff.mpr hn
    rw [Attributes.declare, dif_pos hc] at ha
    obtain ⟨b, hb, rfl⟩ := List.mem_map.mp ha
    split
    · exact ht
    · exact h b hb
  · rw [declare_entries hn] at ha
    rcases List.mem_append.mp ha with ha | ha
    · exact h a ha
    · exact List.mem_singleton.mp ha ▸ ht

lemma areTidy_ofList {es : Entries AttributeType} (h : ∀ e ∈ es, e.2.Tidy) :
    (ofList es).AreTidy :=
  List.foldlRecOn es _ (fun _ ha => absurd ha List.not_mem_nil) fun _ hs e he => hs.declare (h e he)

lemma foldl_declare {as : Attributes} {es : Entries AttributeType}
    (h : (as.entries ++ es).names.Nodup) :
    es.foldl (fun as e => as.declare e.1 e.2) as = ⟨as.entries ++ es, h⟩ := by
  induction es generalizing as with
  | nil => exact ext (List.append_nil _).symm
  | cons e es ih =>
    have hn : e.1 ∉ as.entries.names := Entries.not_mem_of_nodup_append h
    have hd := declare_entries (t := e.2) hn
    rw [List.foldl_cons, ih (by rw [hd]; simpa using h)]
    exact ext (by simp [hd])

lemma ofList_entries (as : Attributes) : ofList as.entries = as := by
  have h : ((∅ : Attributes).entries ++ as.entries).names.Nodup := as.nodup
  exact foldl_declare h

lemma ofJson_toJson {as : Attributes} (h : as.AreTidy) : ofJson as.toJson = .ok as := by
  simp only [ofJson, Outcome.bind_ok_iff, Outcome.mapM_ok_iff]
  refine ⟨_, rfl, as.entries, ?_, congrArg Except.ok as.ofList_entries⟩
  rw [List.forall₂_map_left_iff, List.forall₂_same]
  intro a ha
  exact ⟨a.2, AttributeType.ofJson_toJson (h a ha), rfl⟩

lemma areTidy_of_ofJson {v : Json} {as : Attributes} (h : ofJson v = .ok as) : as.AreTidy := by
  simp only [ofJson, Outcome.bind_ok_iff, Outcome.pure_ok_iff] at h
  obtain ⟨es, -, ts, hts, rfl⟩ := h
  refine areTidy_ofList fun e he => ?_
  obtain ⟨f, -, hf⟩ := Outcome.exists_of_mem_mapM hts he
  obtain ⟨t, ht, hp⟩ := Outcome.bind_ok_iff.mp hf
  obtain rfl := Outcome.pure_ok_iff.mp hp
  exact AttributeType.tidy_of_ofJson ht

end Attributes

namespace CaptureBase

lemma decodeSaid_text (s : Said) : decodeSaid (.string s.text) = .ok s := by
  simp only [decodeSaid, Outcome.bind_ok_iff]
  exact ⟨_, rfl, by rw [Said.parse_text]; rfl⟩

lemma ofJson_toJson {b : CaptureBase} (h : b.attributes.AreTidy) : ofJson b.toJson = .ok b := by
  simp only [ofJson, toJson, List.foldlM_cons, List.foldlM_nil, Fields.read, Json.setOnce,
    decodeSaid_text, Json.toText, Attributes.ofJson_toJson h]
  rfl

lemma covers_toJson (b : CaptureBase) : Json.Shape.Covers shape b.toJson := by
  refine .fields ?_ ?_
  · simp only [List.forall_mem_cons]
    exact ⟨rfl, rfl, rfl, rfl, by simp⟩
  · simp only [List.forall_mem_cons]
    refine ⟨?_, ?_, ?_, ?_, by simp⟩ <;> exact fun s hs => Option.some.inj hs ▸ .whole _

lemma areTidy_of_read {f g : Fields} {e : String × Json} (h : f.read e = .ok g)
    (hf : ∀ as ∈ f.attributes, as.AreTidy) : ∀ as ∈ g.attributes, as.AreTidy := by
  unfold Fields.read at h
  split at h <;> simp only [Outcome.bind_ok_iff, Outcome.pure_ok_iff, Json.setOnce_ok_iff] at h
  -- only under `attributes` are types decoded
  case h_4 =>
    obtain ⟨_, ⟨-, as, has, rfl⟩, rfl⟩ := h
    intro bs hbs
    exact Option.some.inj hbs ▸ Attributes.areTidy_of_ofJson has
  case h_5 => exact h ▸ hf
  all_goals
    obtain ⟨_, -, rfl⟩ := h
    exact hf

lemma areTidy_of_ofJson {v : Json} {b : CaptureBase} (h : ofJson v = .ok b) :
    b.attributes.AreTidy := by
  have hd : (∅ : Attributes).AreTidy := fun _ ha => absurd ha List.not_mem_nil
  unfold ofJson at h
  split at h
  · obtain ⟨f, hf, h⟩ := Outcome.bind_ok_iff.mp h
    have hi := Outcome.foldlM_preserves (fun f : Fields => ∀ as ∈ f.attributes, as.AreTidy)
      (fun _ _ _ _ hi h => areTidy_of_read h hi) hf (by simp)
    simp only [Fields.finish, Outcome.bind_ok_iff, Outcome.pure_ok_iff] at h
    obtain ⟨_, -, _, -, rfl⟩ := h
    cases ha : f.attributes with
    | none => exact hd
    | some as => exact hi as ha
  · simp only [Outcome.bind_ok_iff, Outcome.pure_ok_iff] at h
    obtain ⟨_, -, _, -, _, -, as, has, _, -, rfl⟩ := h
    rcases Json.exists_of_elementOr has with rfl | ⟨v, -, hv⟩
    · exact hd
    · exact Attributes.areTidy_of_ofJson hv
  · contradiction

end CaptureBase

end LayeredSchema
