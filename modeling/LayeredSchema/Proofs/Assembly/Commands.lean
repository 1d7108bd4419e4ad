import LayeredSchema.Proofs.Assembly.Overlays
import LayeredSchema.Proofs.CaptureBase

/-!
The commands of a bundle. A bundle that was assembled is assembled again from its own commands,
under every registry that changes make of the built-in definitions or of none.
-/

namespace LayeredSchema

namespace Assembly

variable {r : Registry}

lemma foldlM_declare {line : ℕ} {b : CaptureBase.Draft} {es : Entries AttributeType}
    (h : (b.attributes.entries ++ es).names.Nodup) :
    es.foldlM (declare line) b = .ok { b with attributes := ⟨b.attributes.entries ++ es, h⟩ } := by
  induction es generalizing b with
  | nil =>
    rw [List.foldlM_nil]
    simp only [List.append_nil]
    rfl
  | cons e es ih =>
    have hn : e.1 ∉ b.attributes.entries.names := Entries.not_mem_of_nodup_append h
    have hb : b.hasAttribute e.1 = false := by
      rwa [← Bool.not_eq_true, CaptureBase.Draft.hasAttribute, Attributes.contains,
        Entries.contains_iff]
    have hd := Attributes.declare_entries (t := e.2) hn
    rw [List.foldlM_cons, declare, hb]
    change (es.foldlM (declare line) (b.declare e.1 e.2)) = _
    refine (ih (b := b.declare e.1 e.2) ?_).trans ?_
    · change Entries.names ((b.attributes.declare e.1 e.2).entries ++ es) |>.Nodup
      rw [hd]
      simpa using h
    · simp [CaptureBase.Draft.declare, hd]

lemma follow_ok_iff {d e : Draft} {c : Command} : d.follow r c = .ok e ↔
    (∃ value, c.action = .classification value ∧ d.isClassified = false ∧
      e = { d with isClassified := true, captureBase := d.captureBase.classify value }) ∨
    (∃ as b, c.action = .attributes as ∧ as.foldlM (declare c.line) d.captureBase = .ok b ∧
      e = { d with captureBase := b }) ∨
    (∃ name ps o, c.action = .overlay name ps ∧ overlay r c.line name ps = .ok o ∧
      e = { d with overlays := d.overlays ++ [o] }) := by
  unfold Draft.follow
  cases c.action with
  | classification value =>
    cases hd : d.isClassified <;> simp [eq_comm (b := e)]
  | attributes as =>
    simp [-bind_pure_comp, Outcome.bind_ok_iff, Outcome.pure_ok_iff, eq_comm (b := e)]
  | overlay name ps =>
    simp [-bind_pure_comp, Outcome.bind_ok_iff, Outcome.pure_ok_iff, eq_comm (b := e)]

lemma foldlM_overlays {cs : List Command} {os : List Overlay}
    (h : List.Forall₂ (fun c o => ∃ name ps, c.action = .overlay name ps ∧
      overlay r c.line name ps = .ok o) cs os) (d : Draft) :
    cs.foldlM (Draft.follow r) d = .ok { d with overlays := d.overlays ++ os } := by
  induction h generalizing d with
  | nil => simp [pure, Except.pure]
  | @cons c o cs os hc _ ih =>
    obtain ⟨name, ps, ha, ho⟩ := hc
    have hf : Draft.follow r d c = .ok { d with overlays := d.overlays ++ [o] } :=
      follow_ok_iff.mpr (Or.inr (Or.inr ⟨name, ps, o, ha, ho, rfl⟩))
    rw [List.foldlM_cons, hf]
    exact (ih _).trans (by simp)

lemma foldlM_classification {cs : List Command} {b : CaptureBase}
    (h : cs.map (·.action) = Bundle.classificationActions b) :
    ∃ f, cs.foldlM (Draft.follow r) {} =
      .ok { captureBase := { classification := b.classification }, isClassified := f } := by
  unfold Bundle.classificationActions at h
  split at h
  · rename_i he
    obtain rfl := List.map_eq_nil_iff.mp h
    rw [String.isEmpty_iff] at he
    exact ⟨false, by rw [he]; rfl⟩
  · obtain ⟨c, rfl, hc⟩ := List.map_eq_singleton_iff.mp h
    refine ⟨true, ?_⟩
    rw [List.foldlM_cons, follow_ok_iff.mpr (Or.inl ⟨_, hc, rfl, rfl⟩)]
    rfl

lemma foldlM_attributes {cs : List Command} {b : CaptureBase}
    (h : cs.map (·.action) = Bundle.attributeActions b) {d : Draft}
    (hd : d.captureBase.attributes = ∅) :
    cs.foldlM (Draft.follow r) d =
      .ok { d with captureBase := { d.captureBase with attributes := b.attributes } } := by
  unfold Bundle.attributeActions at h
  split at h
  · rename_i he
    obtain rfl := List.map_eq_nil_iff.mp h
    have hb : b.attributes = ∅ := Attributes.ext (List.isEmpty_iff.mp he)
    rw [hb, ← hd]
    rfl
  · obtain ⟨c, rfl, hc⟩ := List.map_eq_singleton_iff.mp h
    have hn : (d.captureBase.attributes.entries ++ b.attributes.entries).names.Nodup := by
      rw [hd]
      exact b.attributes.nodup
    have ha : (⟨d.captureBase.attributes.entries ++ b.attributes.entries, hn⟩ : Attributes) =
        b.attributes := Attributes.ext (by simp only [hd]; rfl)
    rw [List.foldlM_cons, follow_ok_iff.mpr (Or.inr (Or.inl ⟨_, _, hc, foldlM_declare hn, rfl⟩)), ha]
    rfl

lemma assemble_of_written {name : Option String} {b : CaptureBase.Draft} {os : List Overlay}
    {cs as ls : List Command}
    (hc : cs.map (·.action) = Bundle.classificationActions b.build)
    (ha : as.map (·.action) = Bundle.attributeActions b.build)
    (hl : List.Forall₂ (fun c o => ∃ name ps, c.action = .overlay name ps ∧
      overlay r c.line name ps = .ok o) ls os) :
    assemble r ⟨name, cs ++ as ++ ls⟩ = .ok (.make name b.build os) := by
  obtain ⟨f, hf⟩ := foldlM_classification (r := r) hc
  simp only [assemble, List.foldlM_append, hf, Outcome.bind_ok_iff]
  exact ⟨_, ⟨_, ⟨_, rfl, foldlM_attributes ha rfl⟩, foldlM_overlays hl _⟩, rfl⟩

lemma entries_of_declare {line : ℕ} {b c : CaptureBase.Draft} {as : List (String × AttributeType)}
    (h : as.foldlM (declare line) b = .ok c) :
    c.attributes.entries = b.attributes.entries ++ as := by
  induction as generalizing b with
  | nil =>
    obtain rfl := Outcome.pure_ok_iff.mp h
    simp
  | cons a as ih =>
    obtain ⟨d, hd, h⟩ := Outcome.bind_ok_iff.mp h
    rw [declare] at hd
    split at hd
    · contradiction
    · rename_i hn
      obtain rfl := Except.ok.inj hd
      have hn : a.1 ∉ b.attributes.entries.names := by
        rwa [CaptureBase.Draft.hasAttribute, Attributes.contains, Entries.contains_iff] at hn
      rw [ih h, CaptureBase.Draft.declare, Attributes.declare_entries hn, List.append_assoc]
      rfl

lemma foldlM_declare_ok_iff {line : ℕ} {b c : CaptureBase.Draft} {as : Entries AttributeType} :
    as.foldlM (declare line) b = .ok c ↔
      c.classification = b.classification ∧ c.attributes.entries = b.attributes.entries ++ as := by
  have hd (h : (b.attributes.entries ++ as).names.Nodup) :
      c = { b with attributes := ⟨b.attributes.entries ++ as, h⟩ } ↔
        c.classification = b.classification ∧
          c.attributes.entries = b.attributes.entries ++ as := by
    obtain ⟨value, attributes⟩ := c
    simp only [CaptureBase.Draft.mk.injEq]
    exact and_congr_right fun _ => ⟨fun h => h ▸ rfl, fun h => Attributes.ext h⟩
  constructor
  · intro h
    have he := entries_of_declare h
    have hn : (b.attributes.entries ++ as).names.Nodup := he ▸ c.attributes.nodup
    exact (hd hn).mp (Except.ok.inj (h.symm.trans (foldlM_declare hn)))
  · intro h
    have hn : (b.attributes.entries ++ as).names.Nodup := h.2 ▸ c.attributes.nodup
    rw [(hd hn).mpr h, foldlM_declare hn]

structure Origin (r : Registry) (commands : List Command) (d : Draft) : Prop where
  attributes : ∀ a ∈ d.captureBase.attributes.entries,
    ∃ c ∈ commands, ∃ declared, c.action = .attributes declared ∧ a ∈ declared
  overlays : ∀ o ∈ d.overlays,
    ∃ c ∈ commands, ∃ name ps, c.action = .overlay name ps ∧ overlay r c.line name ps = .ok o

lemma Origin.follow {commands : List Command} {d e : Draft} {c : Command} (hc : c ∈ commands)
    (hd : Origin r commands d) (h : d.follow r c = .ok e) : Origin r commands e := by
  rcases follow_ok_iff.mp h with ⟨value, -, -, rfl⟩ | ⟨declared, b, ha, hb, rfl⟩ |
    ⟨name, ps, o, ha, ho, rfl⟩
  · exact ⟨hd.attributes, hd.overlays⟩
  · refine ⟨fun a hm => ?_, hd.overlays⟩
    rw [entries_of_declare hb] at hm
    rcases List.mem_append.mp hm with hm | hm
    · exact hd.attributes a hm
    · exact ⟨c, hc, declared, ha, hm⟩
  · refine ⟨hd.attributes, fun o' hm => ?_⟩
    rcases List.mem_append.mp hm with hm | hm
    · exact hd.overlays o' hm
    · exact ⟨c, hc, name, ps, ha, List.mem_singleton.mp hm ▸ ho⟩

lemma origin_of_assemble {f : Ocafile} {b : Bundle} (h : assemble r f = .ok b) :
    ∃ d : Draft, b = .make f.name d.captureBase.build d.overlays ∧ Origin r f.commands d := by
  simp only [assemble, Outcome.bind_ok_iff, Outcome.pure_ok_iff] at h
  obtain ⟨d, hd, rfl⟩ := h
  have hi : Origin r f.commands {} :=
    ⟨fun _ ha => absurd ha List.not_mem_nil, fun _ ho => absurd ho List.not_mem_nil⟩
  exact ⟨d, rfl, Outcome.foldlM_preserves (Origin r f.commands)
    (fun _ _ _ hc hd => hd.follow hc) hd hi⟩

lemma attributes_of_follow {cs : List Command} {d e : Draft}
    (h : cs.foldlM (Draft.follow r) d = .ok e) :
    d.captureBase.attributes.entries ⊆ e.captureBase.attributes.entries ∧
      ∀ c ∈ cs, ∀ as, c.action = .attributes as → as ⊆ e.captureBase.attributes.entries := by
  induction cs generalizing d with
  | nil =>
    obtain rfl := Outcome.pure_ok_iff.mp h
    exact ⟨List.Subset.refl _, by simp⟩
  | cons c cs ih =>
    obtain ⟨b, hb, h⟩ := Outcome.bind_ok_iff.mp h
    obtain ⟨hs, hc⟩ := ih h
    suffices d.captureBase.attributes.entries ⊆ b.captureBase.attributes.entries ∧
        ∀ as, c.action = .attributes as → as ⊆ b.captureBase.attributes.entries from
      ⟨List.Subset.trans this.1 hs,
        List.forall_mem_cons.mpr ⟨fun as ha => List.Subset.trans (this.2 as ha) hs, hc⟩⟩
    rcases follow_ok_iff.mp hb with ⟨value, ha, -, rfl⟩ | ⟨declared, b', ha, hb', rfl⟩ |
      ⟨name, ps, o, ha, -, rfl⟩
    · exact ⟨List.Subset.refl _, fun as hc => absurd (ha.symm.trans hc) (by simp)⟩
    · have he := entries_of_declare hb'
      refine ⟨he ▸ List.subset_append_left _ _, fun as hc => ?_⟩
      exact Action.attributes.inj (ha.symm.trans hc) ▸ he ▸ List.subset_append_right _ _
    · exact ⟨List.Subset.refl _, fun as hc => absurd (ha.symm.trans hc) (by simp)⟩

lemma attributes_of_assemble {f : Ocafile} {b : Bundle} (h : assemble r f = .ok b) {c : Command}
    (hc : c ∈ f.commands) {as : List (String × AttributeType)} (ha : c.action = .attributes as) :
    as ⊆ b.captureBase.attributes.entries := by
  simp only [assemble, Outcome.bind_ok_iff, Outcome.pure_ok_iff] at h
  obtain ⟨d, hd, rfl⟩ := h
  exact (attributes_of_follow hd).2 c hc as ha

lemma made_of_assemble {f : Ocafile} {b : Bundle} (h : assemble r f = .ok b) :
    ∃ d : Draft, b = .make f.name d.captureBase.build d.overlays ∧ ∀ o ∈ d.overlays, Made r o := by
  obtain ⟨d, hb, hd⟩ := origin_of_assemble h
  refine ⟨d, hb, fun o ho => ?_⟩
  obtain ⟨c, -, name, ps, -, hm⟩ := hd.overlays o ho
  exact made_of_overlay hm

lemma commandName_eq_name {o : Overlay} (h : Made r o) :
    ∃ d ∈ r.definitions, Bundle.commandName r o = d.name ∧ d.tag = o.tag := by
  obtain ⟨d, hd, ht⟩ := h.tagged
  obtain ⟨e, he, het, hre⟩ := Registry.resolveTag_of_mem hd
  exact ⟨e, he, by rw [Bundle.commandName, ← ht, hre], het.trans ht⟩

lemma commandName_of_made {o : Overlay} (hr : r.Distinct) (h : Made r o) :
    ∃ d, r.resolve (Bundle.commandName r o) = some d ∧ d.tag = o.tag := by
  obtain ⟨d, hd, hn, ht⟩ := commandName_eq_name h
  refine ⟨d, ?_, ht⟩
  rw [hn]
  exact hr.resolve_of_mem hd (Registry.isNamed_self List.mem_cons_self)

lemma payloadValue_ofJson {ctx : Context} {d : Definition} {b : Body} (ht : d.tag = b.tag)
    (hb : b.IsWritable) {e : String × Json} (he : e ∈ b.toPayload.entries) :
    payloadValue ctx d.kind (.mk 0 e.1 (.ofJson e.2)) = .ok e.2 := by
  have hp := hb.plain e he
  by_cases hk : d.kind = .custom
  · rw [hk, payloadValue_custom]
    exact congrArg Except.ok (customValue_ofJson hp)
  · obtain ⟨hbk, hkd⟩ : b.kind ≠ .custom ∧ b.kind = d.kind := Body.kind_of_tag hk ht.symm
    rw [← hkd]
    exact payloadValue_of_isWritten hbk he rfl hp.isWritten

lemma overlay_of_action {o : Overlay} (hr : r.Distinct) (h : Made r o) (line : ℕ) :
    overlay r line (Bundle.commandName r o)
      (Bundle.languageProperty o.language ++ Property.ofEntries o.body.toPayload.entries) =
        .ok o := by
  obtain ⟨d, hd, ht⟩ := commandName_of_made hr h
  refine (overlay_of_read hd ht h.writable.unreserved ?_ ?_).trans (congrArg _ h.eq_make.symm)
  · cases o.language with
    | none => rfl
    | some l => exact ⟨0, rfl⟩
  · rw [Property.ofEntries_eq_map, List.forall₂_map_left_iff, List.forall₂_same]
    exact fun e he => ⟨rfl, payloadValue_ofJson ht h.writable he⟩

/-- Assembly undoes the writing of commands, on every bundle that was assembled. -/
theorem assemble_toOcafile (hr : r.Reachable) {f : Ocafile} {b : Bundle}
    (h : assemble r f = .ok b) : assemble r (b.toOcafile r) = .ok b := by
  obtain ⟨d, rfl, hm⟩ := made_of_assemble h
  simp only [Bundle.toOcafile, List.map_append]
  refine assemble_of_written ?_ ?_ ?_
  · simp [Bundle.make, Function.comp_def]
  · simp [Bundle.make, Function.comp_def]
  · simp only [Bundle.make, List.map_map]
    rw [List.forall₂_map_left_iff, List.forall₂_same]
    exact fun o ho => ⟨_, _, rfl, overlay_of_action hr.distinct (hm o ho) 0⟩

def travelRegistry : Registry :=
  (Registry.addAliases
    ⟨Registry.builtin.definitions ++ [.custom "Passport Extra" "1.0.0" false ["extra"]]⟩
    "LABEL" ["caption"]).1

def travelFile : Ocafile :=
  ⟨some "passport",
    [⟨1, .attributes [("sex", .primitive .text), ("visas", .array (.primitive .dateTime))]⟩,
      ⟨2, .overlay "Caption"
        [.mk 3 "language" (.text ""), .mk 4 "attribute_labels" (.block [.mk 5 "sex" (.text "S")])]⟩,
      ⟨6, .overlay "entry"
        [.mk 7 "attribute_entries"
          (.block [.mk 8 "visas" .bare, .mk 9 "sex" (.block [.mk 10 "M" (.text "male")])])]⟩,
      ⟨11, .overlay "passport-extra"
        [.mk 12 "notes" (.block [.mk 13 "b" (.block []), .mk 14 "a" (.list [])]),
          .mk 15 "flags" (.block [.mk 16 "x" .bare])]⟩]⟩

lemma travelRegistry_reachable : travelRegistry.Reachable := by
  refine Or.inl (.tail (.single (.insert rfl (Registry.insert_ok_iff.mpr ⟨?_, rfl⟩)))
    (.addAliases _ _ _))
  decide +kernel

theorem assemble_toOcafile_travel : travelRegistry.Reachable ∧
    ∃ b, assemble travelRegistry travelFile = .ok b ∧
      assemble travelRegistry (b.toOcafile travelRegistry) = .ok b := by
  obtain ⟨b, hb⟩ : ∃ b, assemble travelRegistry travelFile = .ok b := by
    rw [Outcome.exists_ok_iff_isOk]
    decide +kernel
  exact ⟨travelRegistry_reachable, b, hb, assemble_toOcafile travelRegistry_reachable hb⟩

end Assembly

end LayeredSchema
