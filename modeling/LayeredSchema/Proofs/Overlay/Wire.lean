import LayeredSchema.Overlay.Basic
import LayeredSchema.Proofs.Assembly.Overlays
import LayeredSchema.Proofs.Identifier.Said
import LayeredSchema.Proofs.Json.Normal

/-!
Overlays on the wire: the overlay's own keys are told from those of its payload, whatever the order
of the entries, and the payload decodes to the body that wrote it.
-/

namespace LayeredSchema

structure Body.IsWire (b : Body) : Prop where
  unreserved : ∀ e ∈ b.toPayload.entries, e.1 ∉ Overlay.reservedKeys
  normal : ∀ e ∈ b.toPayload.entries, e.2.IsNormal

lemma Body.IsWritable.isWire {b : Body} (h : b.IsWritable) : b.IsWire :=
  ⟨h.unreserved, fun e he => (h.plain e he).isNormal⟩

namespace Overlay

variable {o : Overlay} {t : Table Json} {e : String × Json} {k : String}

lemma get?_payload {b : Body} (h : b.IsWire) (hk : k ∈ reservedKeys) :
    b.toPayload.get? k = none := by
  refine Entries.get?_eq_none_iff.mpr fun hm => ?_
  obtain ⟨e, he, rfl⟩ := List.mem_map.mp hm
  exact h.unreserved e he hk

def ownEntries (o : Overlay) : Entries Json :=
  ("digest", .string o.digest.text) ::
    optionalEntry "capture_base" (o.captureBase.map Said.text) ++
    ("type", .string o.tag) :: optionalEntry "language" o.language

lemma toJson_eq : o.toJson = .object (o.ownEntries ++ o.body.toPayload.entries) := rfl

lemma nodup_ownEntries : o.ownEntries.names.Nodup := by
  obtain ⟨digest, captureBase, language, body⟩ := o
  cases captureBase <;> cases language <;>
    simp [ownEntries, optionalEntry, Entries.names]

lemma mem_optionalEntry {x : Option String} (h : e ∈ optionalEntry k x) :
    ∃ s, e = (k, .string s) := by
  cases x with
  | none => contradiction
  | some s => exact ⟨s, List.mem_singleton.mp h⟩

lemma mem_ownEntries (h : e ∈ o.ownEntries) : e.1 ∈ reservedKeys ∧ ∃ s, e.2 = .string s := by
  rcases List.mem_append.mp h with h | h
  · rcases List.mem_cons.mp h with rfl | h
    · exact ⟨(by decide : "digest" ∈ reservedKeys), _, rfl⟩
    · obtain ⟨s, rfl⟩ := mem_optionalEntry h
      exact ⟨(by decide : "capture_base" ∈ reservedKeys), s, rfl⟩
  · rcases List.mem_cons.mp h with rfl | h
    · exact ⟨(by decide : "type" ∈ reservedKeys), _, rfl⟩
    · obtain ⟨s, rfl⟩ := mem_optionalEntry h
      exact ⟨(by decide : "language" ∈ reservedKeys), s, rfl⟩

lemma get?_ownEntries : o.ownEntries.get? "digest" = some (.string o.digest.text) ∧
    o.ownEntries.get? "capture_base" = o.captureBase.map (fun s => .string s.text) ∧
    o.ownEntries.get? "type" = some (.string o.tag) ∧
    o.ownEntries.get? "language" = o.language.map .string := by
  obtain ⟨digest, captureBase, language, body⟩ := o
  cases captureBase <;> cases language <;>
    simp [ownEntries, optionalEntry, Entries.get?_cons]

def wireTable (o : Overlay) : Table Json := .ofList (o.ownEntries ++ o.body.toPayload.entries)

section Wire

variable (h : o.body.IsWire)
include h

lemma nodup_names : (Entries.names (o.ownEntries ++ o.body.toPayload.entries)).Nodup := by
  rw [Entries.names, List.map_append, List.nodup_append]
  refine ⟨nodup_ownEntries, o.body.toPayload.sorted.nodup_names, fun k hk l hl hkl => ?_⟩
  obtain ⟨e, he, rfl⟩ := List.mem_map.mp hk
  obtain ⟨f, hf, rfl⟩ := List.mem_map.mp hl
  exact h.unreserved f hf (hkl ▸ (mem_ownEntries he).1)

lemma get?_wireTable (hk : k ∈ reservedKeys) : o.wireTable.get? k = o.ownEntries.get? k := by
  have hn : o.body.toPayload.entries.get? k = none := get?_payload h hk
  rw [wireTable, Body.get?_ofList (nodup_names h), Entries.get?_append, hn, Option.or_none]

lemma payloadOf_wireTable : payloadOf o.wireTable = o.body.toPayload := by
  have hp := (Entries.perm_ofList (nodup_names h)).filter fun e => !reservedKeys.contains e.1
  have ho : o.ownEntries.filter (fun e => !reservedKeys.contains e.1) = [] :=
    List.filter_eq_nil_iff.mpr fun e he => by simp [(mem_ownEntries he).1]
  have hb : o.body.toPayload.entries.filter (fun e => !reservedKeys.contains e.1) =
      o.body.toPayload.entries :=
    List.filter_eq_self.mpr fun e he => by simpa using h.unreserved e he
  rw [List.filter_append, ho, hb, List.nil_append] at hp
  have hs : Entries.Sorted (o.wireTable.entries.filter fun e => !reservedKeys.contains e.1) :=
    o.wireTable.sorted.filter _
  have he := hs.eq_of_perm o.body.toPayload.sorted hp
  rw [payloadOf, he, Table.ofList_entries]

lemma isNormal_toJson : o.toJson.normal = .object o.wireTable.entries := by
  have hn : ∀ e ∈ o.ownEntries ++ o.body.toPayload.entries, e.2.IsNormal := by
    intro e he
    rcases List.mem_append.mp he with he | he
    · obtain ⟨-, s, hs⟩ := mem_ownEntries he
      exact hs ▸ rfl
    · exact h.normal e he
  rw [toJson_eq, Json.normal, Json.normalEntries_of_isNormal hn]
  rfl

lemma ofTable_wireTable : ofTable o.wireTable = .ok o := by
  obtain ⟨hd, hc, ht, hl⟩ := o.get?_ownEntries
  have hs (s : Said) : readSaid s.text = .ok s := by
    rw [readSaid, Said.parse_text]
    rfl
  have ht : readTag o.wireTable = .ok o.tag := by
    rw [readTag, get?_wireTable h (by decide), ht]
  have hd : readDigest o.wireTable = .ok o.digest := by
    rw [readDigest, get?_wireTable h (by decide), hd]
    exact hs o.digest
  have hc : readCaptureBase o.wireTable = .ok o.captureBase := by
    rw [readCaptureBase, get?_wireTable h (by decide), hc]
    cases o.captureBase with
    | none => rfl
    | some c => exact congrArg (Except.map some) (hs c)
  have hl : readLanguage o.wireTable = .ok o.language := by
    rw [readLanguage, get?_wireTable h (by decide), hl]
    cases o.language <;> rfl
  have hb : Body.ofPayload o.tag (payloadOf o.wireTable) = .ok o.body := by
    rw [payloadOf_wireTable h]
    exact Body.ofPayload_toPayload o.body
  rw [ofTable, ht, hd, hc, hl]
  change (Body.ofPayload o.tag (payloadOf o.wireTable)).mapError _ >>= _ = _
  rw [hb]
  rfl

lemma ofJson_toJson : ofJson o.toJson = .ok o := by
  rw [ofJson, isNormal_toJson h]
  change (ofTable (.ofList o.wireTable.entries)).mapError _ = _
  rw [Table.ofList_entries, ofTable_wireTable h]
  rfl

end Wire

lemma isWire_of_ofTable (h : ofTable t = .ok o) (ht : ∀ e ∈ t.entries, e.2.IsNormal) :
    o.body.IsWire := by
  simp only [ofTable, Outcome.bind_ok_iff, Outcome.pure_ok_iff, Outcome.mapError_ok_iff] at h
  obtain ⟨tag, -, digest, -, captureBase, -, language, -, body, hb, rfl⟩ := h
  have hp : ∀ e ∈ (payloadOf t).entries, e ∈ t.entries ∧ e.1 ∉ reservedKeys := by
    intro e he
    simpa using List.mem_filter.mp (Entries.mem_of_mem_ofList he)
  have hw := Body.toPayload_of_ofPayload (fun _ => Json.Plain.isNormal) hb
    (fun e he => (hp e he).2) fun _ e he => ht e (hp e he).1
  exact ⟨fun e he => (hw e he).1, fun e he => (hw e he).2⟩

lemma isWire_of_ofJson {v : Json} (h : ofJson v = .ok o) : o.body.IsWire := by
  simp only [ofJson, Outcome.bind_ok_iff, Outcome.mapError_ok_iff] at h
  obtain ⟨es, hes, h⟩ := h
  refine isWire_of_ofTable h fun e he => ?_
  cases v with
  | object fs =>
    obtain rfl := Except.ok.inj hes
    exact Json.isNormal_of_mem_normalEntries fs e
      (Entries.mem_of_mem_ofList (Entries.mem_of_mem_ofList he))
  | _ => contradiction

end Overlay

end LayeredSchema
