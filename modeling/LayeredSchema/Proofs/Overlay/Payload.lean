import LayeredSchema.Overlay.Body
import LayeredSchema.Proofs.Outcome
import LayeredSchema.Proofs.Table

/-! Payloads: what a body writes is decoded to the same body, under the same tag. -/

namespace LayeredSchema

namespace Json

lemma toTexts_ofTexts (ss : List String) : (ofTexts ss).toTexts = .ok ss := by
  simp only [toTexts, Outcome.bind_ok_iff, Outcome.mapM_ok_iff]
  refine ⟨_, rfl, ?_⟩
  rw [List.forall₂_map_left_iff, List.forall₂_same]
  exact fun s _ => rfl

lemma toTable_ok {α : Type} (encode : α → Json) {decode : Json → Except Fault α}
    (h : ∀ a, decode (encode a) = .ok a) (t : Table α) :
    toTable decode (.object (t.entries.map fun e => (e.1, encode e.2))) = .ok t := by
  simp only [toTable, Outcome.bind_ok_iff, Outcome.mapM_ok_iff]
  refine ⟨_, rfl, t.entries, ?_, congrArg Except.ok t.ofList_entries⟩
  rw [List.forall₂_map_left_iff, List.forall₂_same]
  intro e _
  simp [h, pure, Except.pure]

lemma toTable_ofTextTable (t : Table String) : toTable toText (ofTextTable t) = .ok t :=
  toTable_ok Json.string (fun _ => rfl) t

end Json

namespace Kind

lemma ofTag?_tagOf {k : Kind} (hk : k ≠ .custom) : ofTag? (tagOf k.slug builtinVersion) = some k := by
  cases k with
  | custom => contradiction
  | _ => rfl

lemma of_ofTag? {tag : String} {k : Kind} (h : ofTag? tag = some k) :
    tag = tagOf k.slug builtinVersion ∧ k ≠ .custom := by
  have hf := List.find?_some h
  have ht : k.tag? = some tag := eq_of_beq hf
  cases k with
  | custom => contradiction
  | _ => exact ⟨(Option.some.inj ht).symm, Kind.noConfusion⟩

end Kind

lemma NameSet.ofList_names (names : NameSet) : NameSet.ofList names.names = names := by
  simpa [NameSet.ofList, Table.names, Entries.names, Function.comp_def] using names.ofList_entries

namespace Body

lemma toTable_tables (t : Table (Table String)) :
    Json.toTable (Json.toTable Json.toText) (tables t) = .ok t :=
  Json.toTable_ok Json.ofTextTable Json.toTable_ofTextTable t

lemma toTable_lists (t : Table (List String)) : Json.toTable Json.toTexts (lists t) = .ok t :=
  Json.toTable_ok Json.ofTexts Json.toTexts_ofTexts t

variable {α : Type} {tag key : String} {payload : Table Json}

lemma take_of_none {default : α} {decode : Json → Except Json.Fault α}
    (h : payload.get? key = none) : take tag payload key default decode = .ok default := by
  simp [take, h]

lemma take_of_some {default a : α} {decode : Json → Except Json.Fault α} {v : Json}
    (h : payload.get? key = some v) (hv : v ≠ .null) (hd : decode v = .ok a) :
    take tag payload key default decode = .ok a := by
  rw [take, h]
  cases v <;> simp_all [Except.mapError]

lemma finish_ok_iff {keys : List String} :
    finish tag payload keys = .ok () ↔ ∀ e ∈ payload.entries, e.1 ∈ keys := by
  unfold finish
  split
  · rename_i k hk
    have hn := List.find?_some hk
    obtain ⟨e, he, rfl⟩ := List.mem_map.mp (List.mem_of_find?_eq_some hk)
    simp only [reduceCtorEq, false_iff, not_forall]
    exact ⟨e, he, by simpa using hn⟩
  · rename_i hk
    simpa [Table.names, Entries.names] using hk

lemma finish_ofList {keys : List String} {es : Entries Json} (h : ∀ e ∈ es, e.1 ∈ keys) :
    finish tag (.ofList es) keys = .ok () :=
  finish_ok_iff.mpr fun e he => h e (Entries.mem_of_mem_ofList he)

section Decoding

variable {es : Entries Json}

lemma get?_ofList (hn : es.names.Nodup) : (Table.ofList es).get? key = es.get? key :=
  Entries.get?_ofList hn key

lemma take_ofList {default a : α} {decode : Json → Except Json.Fault α} {v : Json}
    (hn : es.names.Nodup) (hm : (key, v) ∈ es) (hv : v ≠ .null) (hd : decode v = .ok a) :
    take tag (.ofList es) key default decode = .ok a :=
  take_of_some ((get?_ofList hn).trans (Entries.get?_of_mem hn hm)) hv hd

lemma takeTexts_ofList {t : Table String} (hn : es.names.Nodup)
    (hm : (key, Json.ofTextTable t) ∈ es) : takeTexts tag (.ofList es) key = .ok t :=
  take_ofList hn hm Json.noConfusion (Json.toTable_ofTextTable t)

lemma takeLists_ofList {t : Table (List String)} (hn : es.names.Nodup)
    (hm : (key, lists t) ∈ es) : takeLists tag (.ofList es) key = .ok t :=
  take_ofList hn hm Json.noConfusion (toTable_lists t)

lemma takeOptional_ofList {o : Option String} (hn : es.names.Nodup)
    (ho : es.get? key = o.map Json.string) : takeOptional tag (.ofList es) key = .ok o := by
  cases o with
  | none => exact take_of_none ((get?_ofList hn).trans ho)
  | some s => exact take_of_some ((get?_ofList hn).trans ho) Json.noConfusion rfl

lemma takeOnly_ofList {t : Table String} (body : Table String → Body) :
    takeOnly tag (.ofList [(key, Json.ofTextTable t)]) key body = .ok (body t) := by
  simp only [takeOnly]
  rw [takeTexts_ofList (t := t) (by simp [Entries.names]) (by simp),
    finish_ofList (by simp)]
  rfl

lemma takeWithOption (first key : String) (hk : first ≠ key) (o : Option String) (t : Table String)
    (body : Option String → Table String → Body) :
    (do
      let payload := Table.ofList (optionalText first o ++ [(key, Json.ofTextTable t)])
      let o ← takeOptional tag payload first
      let t ← takeTexts tag payload key
      finish tag payload [first, key]
      return body o t) = .ok (body o t) := by
  have hn : (Entries.names (optionalText first o ++ [(key, Json.ofTextTable t)])).Nodup := by
    cases o <;> simp [Entries.names, optionalText, hk]
  dsimp only
  rw [takeOptional_ofList (o := o) hn, takeTexts_ofList (t := t) hn, finish_ofList]
  · rfl
  · cases o <;> simp [optionalText]
  · simp
  · cases o <;> simp [optionalText, Entries.get?_cons, hk.symm]

end Decoding

lemma ofKind_toPayload {b : Body} (hb : b.kind ≠ .custom) (tag : String) :
    ofKind tag b.toPayload b.kind = .ok b := by
  cases b with
  | metadata t =>
    have hs : Table.ofList (t.entries.map fun e => (e.1, Json.string e.2)) =
        ⟨t.entries.map fun e => (e.1, Json.string e.2), t.sorted.map _⟩ :=
      Table.ofList_entries ⟨_, t.sorted.map _⟩
    simp only [ofKind, toPayload, kind, hs, Outcome.bind_ok_iff, Outcome.mapM_ok_iff]
    refine ⟨t.entries, ?_, congrArg (fun t => Except.ok (metadata t)) t.ofList_entries⟩
    rw [List.forall₂_map_left_iff, List.forall₂_same]
    exact fun e _ => rfl
  | label t | information t | format t | cardinality t | standard t | mapping t | conformance t =>
    exact takeOnly_ofList _
  | entry t =>
    simp only [ofKind, toPayload, kind]
    rw [take_ofList (by simp [Entries.names]) (by simp) Json.noConfusion (toTable_tables t),
      finish_ofList (by simp)]
    rfl
  | characterEncoding o t =>
    exact takeWithOption "default_character_encoding" "attribute_character_encodings" (by decide) o t _
  | unit o t => exact takeWithOption "metric_system" "attribute_units" (by decide) o t _
  | entryCode t | entryCodeMapping t =>
    simp only [ofKind, toPayload, kind]
    rw [takeLists_ofList (t := t) (by simp [Entries.names]) (by simp), finish_ofList (by simp)]
    rfl
  | sensitive names =>
    simp only [ofKind, toPayload, kind]
    rw [take_ofList (by simp [Entries.names]) (by simp) Json.noConfusion
      (Json.toTexts_ofTexts names.names), finish_ofList (by simp)]
    exact congrArg (fun names => Except.ok (sensitive names)) (NameSet.ofList_names names)
  | conditional s t =>
    have hn : (Entries.names [("attribute_conditions", Json.ofTextTable s),
        ("attribute_dependencies", lists t)]).Nodup := by simp [Entries.names]
    simp only [ofKind, toPayload, kind]
    rw [takeTexts_ofList (t := s) hn (by simp), takeLists_ofList (t := t) hn (by simp),
      finish_ofList (by simp)]
    rfl
  | link o t => exact takeWithOption "target_bundle" "attribute_mapping" (by decide) o t _
  | custom t ps => exact absurd rfl hb

lemma kind_of_ofKind {k : Kind} {b : Body} (h : ofKind tag payload k = .ok b) : b.kind = k := by
  cases k with
  | metadata =>
    obtain ⟨_, _, h⟩ := Outcome.bind_ok_iff.mp h
    exact Outcome.pure_ok_iff.mp h ▸ rfl
  | custom => simp [ofKind] at h
  | characterEncoding | unit | conditional | link =>
    simp only [ofKind, Outcome.bind_ok_iff, Outcome.pure_ok_iff] at h
    obtain ⟨_, _, _, _, _, _, rfl⟩ := h
    rfl
  | _ =>
    simp only [ofKind, takeOnly, Outcome.bind_ok_iff, Outcome.pure_ok_iff] at h
    obtain ⟨_, _, _, _, rfl⟩ := h
    rfl

lemma tag_of_kind {b : Body} (hb : b.kind ≠ .custom) :
    b.tag = Kind.tagOf b.kind.slug Kind.builtinVersion := by
  cases b with
  | custom t ps => exact absurd rfl hb
  | _ => rfl

lemma ofPayload_of_ofTag? {k : Kind} (h : Kind.ofTag? tag = some k) :
    ofPayload tag payload = ofKind tag payload k := by
  unfold ofPayload
  split
  · rename_i l hl
    rw [hl, Option.some.injEq] at h
    rw [h]
  · rename_i hl
    rw [hl] at h
    contradiction

lemma ofPayload_of_customTag (t : CustomTag) : ofPayload t.text payload = .ok (.custom t payload) := by
  unfold ofPayload
  split
  · rename_i l hl
    rw [t.notBuiltin] at hl
    contradiction
  · rw [dif_pos t.isOverlayTag]

lemma ofPayload_ok_iff {b : Body} :
    ofPayload tag payload = .ok b ↔
      (∃ k, Kind.ofTag? tag = some k ∧ ofKind tag payload k = .ok b) ∨
        ∃ t : CustomTag, t.text = tag ∧ b = .custom t payload := by
  constructor
  · intro h
    unfold ofPayload at h
    split at h
    · exact Or.inl ⟨_, ‹_›, h⟩
    · split at h
      · exact Or.inr ⟨_, rfl, (Except.ok.inj h).symm⟩
      · contradiction
  · rintro (⟨k, hk, h⟩ | ⟨t, rfl, rfl⟩)
    · rw [ofPayload_of_ofTag? hk, h]
    · exact ofPayload_of_customTag t

lemma tag_of_ofPayload {b : Body} (h : ofPayload tag payload = .ok b) : b.tag = tag := by
  rcases ofPayload_ok_iff.mp h with ⟨k, hk, h⟩ | ⟨t, rfl, rfl⟩
  · obtain ⟨ht, hc⟩ := Kind.of_ofTag? hk
    obtain rfl := kind_of_ofKind h
    rw [tag_of_kind hc, ht]
  · rfl

lemma ofPayload_toPayload (b : Body) : ofPayload b.tag b.toPayload = .ok b := by
  by_cases hb : b.kind = .custom
  · cases b with
    | custom t ps => exact ofPayload_of_customTag t
    | _ => contradiction
  · rw [ofPayload_of_ofTag? (k := b.kind) (tag_of_kind hb ▸ Kind.ofTag?_tagOf hb),
      ofKind_toPayload hb]

lemma ext_toPayload {b c : Body} (ht : b.tag = c.tag) (hp : b.toPayload = c.toPayload) : b = c := by
  have hb := ofPayload_toPayload b
  rw [ht, hp, ofPayload_toPayload] at hb
  exact (Except.ok.inj hb).symm

lemma toPayload_of_metadata {b : Body} (h : ofKind tag payload .metadata = .ok b) :
    b.toPayload = payload := by
  simp only [ofKind, Outcome.bind_ok_iff, Outcome.pure_ok_iff, Outcome.mapM_ok_iff] at h
  obtain ⟨es, hes, rfl⟩ := h
  have he : payload.entries = es.map fun e => (e.1, Json.string e.2) := by
    rw [← List.forall₂_eq_eq_eq, List.forall₂_map_right_iff]
    refine hes.imp fun a e h => ?_
    obtain ⟨k, v⟩ := a
    cases v <;> simp_all [metaText]
    exact h ▸ ⟨rfl, rfl⟩
  have hs : Entries.Sorted es := by
    have hp := payload.sorted
    rwa [he, Entries.Sorted, List.pairwise_map] at hp
  refine Table.ext ?_
  simp only [toPayload, Table.ofList, Entries.ofList_eq_self hs,
    Entries.ofList_eq_self (hs.map fun e => Json.string e.2), he]

end Body

end LayeredSchema
